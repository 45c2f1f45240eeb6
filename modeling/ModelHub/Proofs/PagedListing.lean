import Mathlib.Data.List.Chain
import ModelHub.Catalog
import ModelHub.Hub
import ModelHub.Plan
import ModelHub.Proofs.HubAddress

/-!
# Listings that come in pages

A listing that comes in pages is complete or a failure. Every page is fetched with the token of the
page before it, and nothing is fetched after a page without a token. A listing is never made of a
part of its pages, and neither is a plan.
-/

namespace ModelHub

namespace Listing

/-! ## Rows of pages -/

/-- No page comes after this one: its token is absent or empty. -/
def Page.isLast (page : Page) : Bool := page.nextToken.all String.isEmpty

/-- Another page comes after each of the pages, and none of them gives the token again that it was
fetched with. The first one was fetched with the token that is given. -/
structure AreFollowed (token : Option String) (pages : List Page) : Prop where
  goOn : ∀ page ∈ pages, page.isLast = false
  changing : (token :: pages.map Page.nextToken).IsChain (· ≠ ·)

/-- The token that the fetch after some pages is made with. -/
def tokenAfter (token : Option String) (pages : List Page) : Option String :=
  (pages.map Page.nextToken).getLastD token

/-- What the answer to the last fetch of a listing makes of it, with the token of that fetch and the
records of all pages before it. -/
inductive Concludes (token : Option String) (records : List Record) :
    Except Failure Page → Except Failure (List Record) → Prop
  | failed (failure : Failure) : Concludes token records (.error failure) (.error failure)
  | complete {page : Page} :
      page.isLast = true → Concludes token records (.ok page) (.ok (records ++ page.records))
  | repeated {page : Page} {text : String} :
      page.isLast = false → page.nextToken = some text → token = some text →
      Concludes token records (.ok page)
        (.error (.because .unexpectedResponse (.repeatedToken text)))

variable {token : Option String} {page : Page} {pages : List Page}

theorem Page.isLast_eq_false_iff :
    page.isLast = false ↔ ∃ text, page.nextToken = some text ∧ text.isEmpty = false := by
  unfold isLast
  cases page.nextToken <;> simp

theorem areFollowed_nil (token : Option String) : AreFollowed token [] where
  goOn _ member := absurd member List.not_mem_nil
  changing := List.isChain_singleton token

theorem areFollowed_cons_iff :
    AreFollowed token (page :: pages) ↔
      page.isLast = false ∧ token ≠ page.nextToken ∧ AreFollowed page.nextToken pages := by
  constructor
  · intro followed
    obtain ⟨goesOn, restGoOn⟩ := List.forall_mem_cons.1 followed.goOn
    obtain ⟨changes, restChanging⟩ := List.isChain_cons_cons.1 followed.changing
    exact ⟨goesOn, changes, restGoOn, restChanging⟩
  · intro followed
    obtain ⟨goesOn, changes, rest⟩ := followed
    exact ⟨List.forall_mem_cons.2 ⟨goesOn, rest.goOn⟩,
      List.isChain_cons_cons.2 ⟨changes, rest.changing⟩⟩

theorem tokenAfter_cons (token : Option String) (page : Page) (pages : List Page) :
    tokenAfter token (page :: pages) = tokenAfter page.nextToken pages := by
  unfold tokenAfter
  rw [List.map_cons, List.getLastD_cons]

/-! ## One fetch -/

section Fetch

variable {fetch : Option String → Session (Except Failure Page)} {collected : List Record}
  {world between : World} {limit : Nat}

/-- A page that another one follows is added, and the listing goes on with its token. -/
theorem run_collectPages_of_followed (goesOn : page.isLast = false)
    (changes : token ≠ page.nextToken)
    (fetched : world.run (fetch token) = (.ok (.ok page), between)) :
    world.run (collectPages fetch (limit + 1) token collected) =
      between.run (collectPages fetch limit page.nextToken (collected ++ page.records)) := by
  obtain ⟨text, isToken, notEmpty⟩ := Page.isLast_eq_false_iff.1 goesOn
  rw [isToken] at changes
  rw [collectPages, World.run_bind_of_ok fetched]
  simp [isToken, notEmpty, changes]

/-- An answer that concludes a listing gives its result. -/
theorem run_collectPages_of_concludes {answer : Except Failure Page}
    {result : Except Failure (List Record)} (concludes : Concludes token collected answer result)
    (fetched : world.run (fetch token) = (.ok answer, between)) :
    world.run (collectPages fetch (limit + 1) token collected) = (.ok (some result), between) := by
  rw [collectPages, World.run_bind_of_ok fetched]
  cases concludes with
  | failed failure =>
      rfl
  | @complete page isLast =>
      unfold Page.isLast at isLast
      cases isToken : page.nextToken with
      | none =>
          simp [isToken]
      | some text =>
          rw [isToken, Option.all_some] at isLast
          simp [isToken, isLast]
  | repeated goesOn isToken isOwn =>
      obtain ⟨text, isText, notEmpty⟩ := Page.isLast_eq_false_iff.1 goesOn
      obtain rfl := Option.some.inj (isToken.symm.trans isText)
      simp [isToken, notEmpty, isOwn]

/-- An answer concludes a listing, unless it is a page that another one follows. -/
theorem exists_concludes_or_followed (token : Option String) (records : List Record)
    (answer : Except Failure Page) :
    (∃ result, Concludes token records answer result) ∨
      ∃ page, answer = .ok page ∧ page.isLast = false ∧ token ≠ page.nextToken := by
  cases answer with
  | error failure =>
      exact Or.inl ⟨_, .failed failure⟩
  | ok page =>
      by_cases isLast : page.isLast = true
      · exact Or.inl ⟨_, .complete isLast⟩
      · have goesOn : page.isLast = false := Bool.not_eq_true _ ▸ isLast
        by_cases isOwn : token = page.nextToken
        · obtain ⟨text, isToken, _⟩ := Page.isLast_eq_false_iff.1 goesOn
          exact Or.inl ⟨_, .repeated goesOn isToken (isOwn.trans isToken)⟩
        · exact Or.inr ⟨page, rfl, goesOn, isOwn⟩

end Fetch

/-! ## All fetches -/

section Collect

variable {fetch : Option String → Session (Except Failure Page)} {collected : List Record}
  {world final : World} {limit : Nat}

/-- Asked with a token and then with other ones, the session gives an answer first and then the
answers to the others. -/
theorem run_mapM_cons_eq_ok_iff {tokens : List (Option String)}
    {answers : List (Except Failure Page)} :
    world.run ((token :: tokens).mapM fetch) = (.ok answers, final) ↔
      ∃ first between rest, world.run (fetch token) = (.ok first, between) ∧
        between.run (tokens.mapM fetch) = (.ok rest, final) ∧ answers = first :: rest := by
  simp only [List.mapM_cons, World.run_bind_eq_ok_iff, World.run_pure, Prod.mk.injEq,
    Except.ok.injEq]
  constructor
  · intro given
    obtain ⟨first, between, fetched, rest, after, others, rfl, rfl⟩ := given
    exact ⟨first, between, rest, fetched, others, rfl⟩
  · intro given
    obtain ⟨first, between, rest, fetched, others, rfl⟩ := given
    exact ⟨first, between, fetched, rest, final, others, rfl, rfl⟩

/-- If the fetches, each with the token of the page before it, are answered with pages that are
followed and then with an answer that concludes the listing, then they are the fetches that are
made, and this is the result. -/
theorem run_collectPages {answer : Except Failure Page} {result : Except Failure (List Record)}
    (followed : AreFollowed token pages)
    (concludes : Concludes (tokenAfter token pages) (collected ++ pages.flatMap Page.records)
      answer result)
    (answered : world.run ((token :: pages.map Page.nextToken).mapM fetch) =
      (.ok (pages.map .ok ++ [answer]), final))
    (enough : pages.length < limit) :
    world.run (collectPages fetch limit token collected) = (.ok (some result), final) := by
  obtain ⟨fewer, rfl⟩ : ∃ fewer, limit = fewer + 1 := ⟨limit - 1, by omega⟩
  induction pages generalizing token collected world fewer with
  | nil =>
      obtain ⟨first, between, rest, fetched, noOthers, isFirst⟩ :=
        run_mapM_cons_eq_ok_iff.1 answered
      simp only [List.map_nil, List.nil_append, List.cons.injEq] at isFirst
      obtain ⟨rfl, rfl⟩ := isFirst
      cases noOthers
      rw [List.flatMap_nil, List.append_nil] at concludes
      exact run_collectPages_of_concludes concludes fetched
  | cons page pages inductionHypothesis =>
      obtain ⟨first, between, rest, fetched, others, isFirst⟩ := run_mapM_cons_eq_ok_iff.1 answered
      simp only [List.map_cons, List.cons_append, List.cons.injEq] at isFirst
      obtain ⟨rfl, rfl⟩ := isFirst
      obtain ⟨goesOn, changes, restFollowed⟩ := areFollowed_cons_iff.1 followed
      rw [tokenAfter_cons, List.flatMap_cons, ← List.append_assoc] at concludes
      rw [run_collectPages_of_followed goesOn changes fetched]
      rw [List.length_cons] at enough
      obtain ⟨fewer, rfl⟩ : ∃ less, fewer = less + 1 := ⟨fewer - 1, by omega⟩
      exact inductionHypothesis restFollowed concludes others fewer (by omega)

/-- As long as the fetches are answered with pages that are followed, the listing has no end. -/
theorem run_collectPages_of_beyond (followed : AreFollowed token pages)
    (answered : world.run (((token :: pages.map Page.nextToken).take pages.length).mapM fetch) =
      (.ok (pages.map .ok), final)) :
    world.run (collectPages fetch pages.length token collected) = (.ok none, final) := by
  induction pages generalizing token collected world with
  | nil =>
      cases answered
      rfl
  | cons page pages inductionHypothesis =>
      obtain ⟨first, between, rest, fetched, others, isFirst⟩ := run_mapM_cons_eq_ok_iff.1 answered
      obtain ⟨rfl, rfl⟩ := List.cons.inj isFirst
      obtain ⟨goesOn, changes, restFollowed⟩ := areFollowed_cons_iff.1 followed
      exact (run_collectPages_of_followed goesOn changes fetched).trans
        (inductionHypothesis restFollowed others)

/-- How fetching pages from a token on ends, with the records of earlier ones at hand: with what
the last answer makes of all records, or after as many pages as are allowed, when more of them
follow. -/
inductive Collects (fetch : Option String → Session (Except Failure Page)) (world : World)
    (token : Option String) (collected : List Record) (limit : Nat) :
    Option (Except Failure (List Record)) → World → Prop
  | concluded {pages : List Page} {answer : Except Failure Page}
      {result : Except Failure (List Record)} {final : World} :
      AreFollowed token pages → pages.length < limit →
      world.run ((token :: pages.map Page.nextToken).mapM fetch) =
        (.ok (pages.map .ok ++ [answer]), final) →
      Concludes (tokenAfter token pages) (collected ++ pages.flatMap Page.records) answer result →
      Collects fetch world token collected limit (some result) final
  | beyond {pages : List Page} {final : World} :
      AreFollowed token pages → pages.length = limit →
      world.run (((token :: pages.map Page.nextToken).take limit).mapM fetch) =
        (.ok (pages.map .ok), final) →
      Collects fetch world token collected limit none final

/-- An answer that concludes the listing is collected alone. -/
theorem Collects.of_concludes {answer : Except Failure Page}
    {result : Except Failure (List Record)} (concludes : Concludes token collected answer result)
    (fetched : world.run (fetch token) = (.ok answer, final)) :
    Collects fetch world token collected (limit + 1) (some result) final := by
  refine .concluded (areFollowed_nil token) (Nat.succ_pos limit)
    (run_mapM_cons_eq_ok_iff.2 ⟨answer, final, [], fetched, rfl, rfl⟩) ?_
  rw [List.flatMap_nil, List.append_nil]
  exact concludes

/-- Pages that are collected after one that is followed are collected with it. -/
theorem Collects.of_followed {between : World} {found : Option (Except Failure (List Record))}
    (goesOn : page.isLast = false) (changes : token ≠ page.nextToken)
    (fetched : world.run (fetch token) = (.ok (.ok page), between))
    (collects : Collects fetch between page.nextToken (collected ++ page.records) limit found
      final) :
    Collects fetch world token collected (limit + 1) found final := by
  cases collects with
  | @concluded pages answer result final followed enough answered concludes =>
      rw [← tokenAfter_cons token page, List.append_assoc, ← List.flatMap_cons] at concludes
      refine .concluded (areFollowed_cons_iff.2 ⟨goesOn, changes, followed⟩)
        (Nat.succ_lt_succ enough) ?_ concludes
      exact run_mapM_cons_eq_ok_iff.2 ⟨.ok page, between, _, fetched, answered, rfl⟩
  | @beyond pages final followed full answered =>
      have allFollowed := areFollowed_cons_iff.2 ⟨goesOn, changes, followed⟩
      refine .beyond allFollowed (congrArg Nat.succ full) ?_
      exact run_mapM_cons_eq_ok_iff.2 ⟨.ok page, between, _, fetched, answered, rfl⟩

theorem Collects.run_eq {found : Option (Except Failure (List Record))}
    (collects : Collects fetch world token collected limit found final) :
    world.run (collectPages fetch limit token collected) = (.ok found, final) := by
  cases collects with
  | concluded followed enough answered concludes =>
      exact run_collectPages followed concludes answered enough
  | beyond followed full answered =>
      subst full
      exact run_collectPages_of_beyond followed answered

/-- Where every fetch is answered, collecting pages ends in one of the two ways. -/
theorem exists_collects (onlyAsks : ∀ token, (fetch token).OnlyAsks) (world : World)
    (token : Option String) (collected : List Record) (limit : Nat) :
    ∃ found final, world.run (collectPages fetch limit token collected) = (.ok found, final) ∧
      Collects fetch world token collected limit found final := by
  induction limit generalizing world token collected with
  | zero =>
      exact ⟨none, world, rfl, .beyond (areFollowed_nil token) rfl rfl⟩
  | succ limit inductionHypothesis =>
      obtain ⟨answer, asked, fetched⟩ := (onlyAsks token).exists_run world
      rcases exists_concludes_or_followed token collected answer with
        ⟨result, concludes⟩ | ⟨page, rfl, goesOn, changes⟩
      · exact ⟨some result, _, run_collectPages_of_concludes concludes fetched,
          .of_concludes concludes fetched⟩
      · obtain ⟨found, final, run, collects⟩ :=
          inductionHypothesis _ page.nextToken (collected ++ page.records)
        exact ⟨found, final, (run_collectPages_of_followed goesOn changes fetched).trans run,
          collects.of_followed goesOn changes fetched⟩

end Collect

theorem run_collectPages_eq_ok_iff {fetch : Option String → Session (Except Failure Page)}
    (onlyAsks : ∀ token, (fetch token).OnlyAsks) {world final : World} {token : Option String}
    {collected : List Record} {limit : Nat} {found : Option (Except Failure (List Record))} :
    world.run (collectPages fetch limit token collected) = (.ok found, final) ↔
      Collects fetch world token collected limit found final := by
  constructor
  · intro collected
    obtain ⟨_, _, run, collects⟩ := exists_collects onlyAsks world token _ limit
    cases collected.symm.trans run
    exact collects
  · exact Collects.run_eq

/-- Asked page by page from the first one on, the listing is served in full: all pages but the last
are followed, and the last one is. -/
structure IsServed (fetch : Option String → Session (Except Failure Page)) (world : World)
    (pages : List Page) (last : Page) (final : World) : Prop where
  followed : AreFollowed none pages
  isLast : last.isLast = true
  answered : world.run ((none :: pages.map Page.nextToken).mapM fetch) =
    (.ok ((pages ++ [last]).map .ok), final)

end Listing

/-! ## The listing of a hub -/

namespace Hub

theorem onlyAsks_withUrl {α : Type} (url : Except Failure Url)
    {next : Url → Session (Except Failure α)} (onlyAsks : ∀ url, (next url).OnlyAsks) :
    (withUrl url next).OnlyAsks := by
  cases url with
  | error failure =>
      exact .done _
  | ok url =>
      exact onlyAsks url

theorem onlyAsks_fetchPage (hub : Hub) (token : Option String) : (hub.fetchPage token).OnlyAsks :=
  onlyAsks_withUrl _ fun _ => Http.onlyAsks_askFor _ _

variable {hub : Hub} {limit : Nat} {world final : World} {pages : List Listing.Page}
  {last : Listing.Page} {records : List Record}

/-- A listing that is served in full is the records of all pages in their order. -/
theorem run_listRecords_of_served (served : Listing.IsServed hub.fetchPage world pages last final)
    (enough : pages.length < limit) :
    world.run (hub.listRecords limit) =
      (.ok (.ok ((pages ++ [last]).flatMap Listing.Page.records)), final) := by
  have answered := served.answered
  rw [List.map_append] at answered
  have concludes : Listing.Concludes (Listing.tokenAfter none pages)
      ([] ++ pages.flatMap Listing.Page.records) (.ok last) _ := .complete served.isLast
  have collected := Listing.run_collectPages served.followed concludes answered enough
  unfold listRecords
  rw [World.run_bind_of_ok collected, List.flatMap_append, List.flatMap_singleton]
  rfl

/-- Records that are listed were served in full. -/
theorem exists_served_of_run_listRecords
    (listed : world.run (hub.listRecords limit) = (.ok (.ok records), final)) :
    ∃ pages last, Listing.IsServed hub.fetchPage world pages last final ∧
      pages.length < limit ∧ records = (pages ++ [last]).flatMap Listing.Page.records := by
  unfold listRecords at listed
  obtain ⟨found, between, collected, listed⟩ := World.run_bind_eq_ok_iff.1 listed
  cases (Listing.run_collectPages_eq_ok_iff hub.onlyAsks_fetchPage).1 collected with
  | beyond followed full answered =>
      cases listed
  | concluded followed enough answered concludes =>
      cases listed
      cases concludes with
      | @complete last isLast =>
          refine ⟨_, last, ⟨followed, isLast, ?_⟩, enough, ?_⟩
          · rw [List.map_append]
            exact answered
          · rw [List.flatMap_append, List.flatMap_singleton]
            rfl

/-! ### Pages over the network -/

/-- The request for the page at a URL, as it is sent. -/
def pageRequest (url : Url) : Http.Request := ⟨.get, url.withoutCredentials, none⟩

/-- After some requests, the network answers that many more of them with pages. The first one asks
for the page of a token, and each later one for the page of the token that the page before it
has. -/
inductive HandsOut (hub : Hub) (network : Network) :
    List Http.Request → Option String → List Listing.Page → List Http.Request → Prop
  | none (earlier : List Http.Request) (token : Option String) :
      HandsOut hub network earlier token [] []
  | page {earlier asked : List Http.Request} {token : Option String} {url : Url}
      {reply : Http.Reply} {page : Listing.Page} {pages : List Listing.Page} :
      hub.pageUrl token = .ok url → Http.isAskable url.withoutCredentials = true →
      network earlier (pageRequest url) = .reply reply → reply.isSuccess = true →
      reply.text?.bind Listing.Page.read? = some page →
      HandsOut hub network (earlier ++ [pageRequest url]) page.nextToken pages asked →
      HandsOut hub network earlier token (page :: pages) (pageRequest url :: asked)

theorem fetchPage_of_pageUrl {token : Option String} {url : Url}
    (isPageUrl : hub.pageUrl token = .ok url) :
    hub.fetchPage token = Http.askFor Listing.Page.read? ⟨.get, url, none⟩ := by
  rw [fetchPage, isPageUrl]
  rfl

/-- The tokens that a row of pages is fetched with, one after the other. -/
def tokensFor : Option String → List Listing.Page → List (Option String)
  | _, [] => []
  | token, page :: pages => token :: tokensFor page.nextToken pages

theorem tokensFor_concat (token : Option String) (pages : List Listing.Page)
    (last : Listing.Page) :
    tokensFor token (pages ++ [last]) = token :: pages.map Listing.Page.nextToken := by
  induction pages generalizing token with
  | nil =>
      rfl
  | cons page pages inductionHypothesis =>
      rw [List.cons_append, tokensFor, inductionHypothesis, List.map_cons]

/-- Pages that the network hands out are fetched, and nothing else is asked. -/
theorem exists_run_of_handsOut {network : Network} {earlier asked : List Http.Request}
    {token : Option String} (handsOut : hub.HandsOut network earlier token pages asked)
    (isNetwork : world.network = network) (isEarlier : world.exchanges.map Prod.fst = earlier) :
    ∃ final, world.run ((tokensFor token pages).mapM hub.fetchPage) =
        (.ok (pages.map .ok), final) ∧
      final.exchanges.map Prod.fst = earlier ++ asked := by
  induction handsOut generalizing world with
  | none earlier token =>
      exact ⟨world, rfl, isEarlier.trans (List.append_nil earlier).symm⟩
  | @page earlier asked token url reply page pages isPageUrl askable answered success isPage _
      inductionHypothesis =>
      have isAnswer : (world.exchange (pageRequest url)).1 = .reply reply := by
        rw [World.exchange, isNetwork, isEarlier]
        exact answered
      have fetched : world.run (hub.fetchPage token) =
          (.ok (.ok page), (world.exchange (pageRequest url)).2) := by
        rw [fetchPage_of_pageUrl isPageUrl]
        exact Http.run_askFor_of_isSuccess askable isAnswer success isPage
      have nowEarlier : (world.exchange (pageRequest url)).2.exchanges.map Prod.fst =
          earlier ++ [pageRequest url] := by
        rw [World.exchange, List.map_append, isEarlier]
        rfl
      have sameNetwork : (world.exchange (pageRequest url)).2.network = network := isNetwork
      obtain ⟨final, others, allAsked⟩ := inductionHypothesis sameNetwork nowEarlier
      refine ⟨final, ?_, ?_⟩
      · rw [tokensFor]
        exact Listing.run_mapM_cons_eq_ok_iff.2 ⟨_, _, _, fetched, others, rfl⟩
      · rw [allAsked, List.append_assoc, List.singleton_append]

/-- A listing that the network hands out is served in full. -/
theorem exists_served_of_handsOut {asked : List Http.Request}
    (followed : Listing.AreFollowed none pages) (isLast : last.isLast = true)
    (handsOut : hub.HandsOut world.network (world.exchanges.map Prod.fst) none (pages ++ [last])
      asked) :
    ∃ final, Listing.IsServed hub.fetchPage world pages last final ∧
      final.exchanges.map Prod.fst = world.exchanges.map Prod.fst ++ asked := by
  obtain ⟨final, answered, allAsked⟩ := exists_run_of_handsOut handsOut rfl rfl
  rw [tokensFor_concat] at answered
  exact ⟨final, ⟨followed, isLast, answered⟩, allAsked⟩

end Hub

/-! ## Plans for a hub -/

namespace Plan

variable {lookup : String → Session (Except Failure String)} {requests : List Request}
  {listing : Session (Except Failure (List Record))} {world final : World} {plan : Plan}

/-- A plan is made where the requests were looked up and the hub was listed, from what that gave. -/
theorem run_make_eq_ok_iff :
    world.run (make lookup listing requests) = (.ok (.ok plan), final) ↔
      ∃ results between records,
        world.run (Resolution.resolveAll lookup requests) = (.ok results, between) ∧
        between.run listing = (.ok (.ok records), final) ∧
        plan = assemble requests results records := by
  unfold make
  simp only [World.run_bind_eq_ok_iff]
  constructor
  · intro made
    obtain ⟨results, between, resolved, answer, listedWorld, listed, assembled⟩ := made
    cases answer with
    | error failure =>
        cases assembled
    | ok records =>
        cases assembled
        exact ⟨results, between, records, resolved, listed, rfl⟩
  · intro made
    obtain ⟨results, between, records, resolved, listed, rfl⟩ := made
    exact ⟨results, between, resolved, .ok records, final, listed, rfl⟩

end Plan

/-- Collecting pages ends with the records of all pages up to a last one, or with the failure of the
first fetch that fails or the first token that repeats, and every page is asked for with the token
of the page before it. However the records of a hub are spread over its pages, the plan is the one
for all of them, and there is no plan for a part of them. A page is fetched from the contents of the
hub with its token as a field of the query, and pages that are handed out for that are all there is
to the listing. -/
theorem Listing.collectPages_isComplete {fetch : Option String → Session (Except Failure Page)}
    (onlyAsks : ∀ token, (fetch token).OnlyAsks) (world : World) (limit : Nat) (hub : Hub)
    (lookup : String → Session (Except Failure String)) (requests : List Request) :
    (∃ found final, world.run (collectPages fetch limit none []) = (.ok found, final)) ∧
      (∀ found final, world.run (collectPages fetch limit none []) = (.ok found, final) ↔
        Collects fetch world none [] limit found final) ∧
      (∀ results resolved pages last final,
        world.run (Resolution.resolveAll lookup requests) = (.ok results, resolved) →
        IsServed hub.fetchPage resolved pages last final → pages.length < limit →
        ∃ plan, world.run (Plan.make lookup (hub.listRecords limit) requests) =
            (.ok (.ok plan), final) ∧
          ∀ records, (pages ++ [last]).flatMap Page.records = records →
            world.run (Plan.make lookup (pure (.ok records)) requests) =
              (.ok (.ok plan), resolved)) ∧
      (∀ plan final,
        world.run (Plan.make lookup (hub.listRecords limit) requests) = (.ok (.ok plan), final) →
        ∃ resolved pages last, IsServed hub.fetchPage resolved pages last final ∧
          world.run (Plan.make lookup
              (pure (.ok ((pages ++ [last]).flatMap Page.records))) requests) =
            (.ok (.ok plan), resolved)) ∧
      (hub.IsOverService → ∀ token, ∃ url, hub.pageUrl token = .ok url ∧ hub.IsPageUrl token url ∧
        hub.fetchPage token = Http.askFor Page.read? ⟨.get, url, none⟩) ∧
      ∀ resolved pages last asked, AreFollowed none pages → last.isLast = true →
        hub.HandsOut resolved.network (resolved.exchanges.map Prod.fst) none (pages ++ [last])
          asked →
        ∃ final, IsServed hub.fetchPage resolved pages last final ∧
          final.exchanges.map Prod.fst = resolved.exchanges.map Prod.fst ++ asked := by
  refine ⟨?_, fun _ _ => run_collectPages_eq_ok_iff onlyAsks, ?_, ?_, ?_, ?_⟩
  · obtain ⟨found, final, run, _⟩ := exists_collects onlyAsks world none [] limit
    exact ⟨found, final, run⟩
  · intro results resolved pages last final resolvedAll served enough
    have listed := Hub.run_listRecords_of_served served enough
    refine ⟨_, Plan.run_make_eq_ok_iff.2 ⟨results, resolved, _, resolvedAll, listed, rfl⟩, ?_⟩
    rintro records rfl
    exact Plan.run_make_eq_ok_iff.2 ⟨results, resolved, _, resolvedAll, rfl, rfl⟩
  · intro plan final made
    obtain ⟨results, resolved, records, resolvedAll, listed, rfl⟩ := Plan.run_make_eq_ok_iff.1 made
    obtain ⟨pages, last, served, _, rfl⟩ := Hub.exists_served_of_run_listRecords listed
    exact ⟨resolved, pages, last, served,
      Plan.run_make_eq_ok_iff.2 ⟨results, resolved, _, resolvedAll, rfl, rfl⟩⟩
  · intro overService token
    obtain ⟨url, isUrl, isPageUrl⟩ := Hub.exists_isPageUrl overService token
    exact ⟨url, isUrl, isPageUrl, Hub.fetchPage_of_pageUrl isUrl⟩
  · intro resolved pages last asked followed isLast handsOut
    exact Hub.exists_served_of_handsOut followed isLast handsOut

namespace Listing

def pagedHub : Hub :=
  ⟨⟨"http", "", "", some "[::1]", none, false, .segments [""], none, none⟩, "hub"⟩

/-- The contents of the hub, with a query. -/
def contentsWith (query : String) : Url :=
  { pagedHub.apiBase with path := .segments ["hubs", "hub", "contents"], query := some query }

/-- The page that is handed out without a token. -/
def firstText : String :=
  "\x7b\"HubContentSummaries\":[\x7b\"HubContentName\":\"first\"," ++
    "\"HubContentSearchKeywords\":[\"@jumpstart-model-id:x\"," ++
    "\"@jumpstart-model-version:1\"]\x7d],\"NextToken\":\"a b&c\"\x7d"

/-- The page that is handed out for the token of the first one. -/
def secondText : String :=
  "\x7b\"HubContentSummaries\":[\x7b\"HubContentName\":\"second\"," ++
    "\"HubContentSearchKeywords\":[\"@jumpstart-model-id:y\"," ++
    "\"@jumpstart-model-version:1\"]\x7d],\"NextToken\":\"\"\x7d"

/-- Two pages, each with a copy of a model at a version that the hub does not record. No page is
handed out for any other token. -/
def twoPages : World :=
  World.fresh [] fun _ request =>
    if request.url.query = some "HubContentType=Model" then .reply (.ofText 200 none firstText)
    else if request.url.query = some "HubContentType=Model&NextToken=a+b%26c" then
      .reply (.ofText 200 none secondText)
    else .dropped

def ofBothPages : Plan :=
  ⟨[⟨0, ⟨"x", "1"⟩, .hubVersionUnknown⟩, ⟨1, ⟨"y", "1"⟩, .hubVersionUnknown⟩], []⟩

theorem collectPages_isComplete_twoPages :
    ∃ pages last asked final,
      pagedHub.HandsOut twoPages.network [] none (pages ++ [last]) asked ∧
      asked.map (fun request => request.url.query) =
        [some "HubContentType=Model", some "HubContentType=Model&NextToken=a+b%26c"] ∧
      final.exchanges.map Prod.fst = asked ∧
      twoPages.run (Plan.make (Catalog.saved []).latest (pagedHub.listRecords 2)
        [⟨"x", "1"⟩, ⟨"y", "1"⟩]) = (.ok (.ok ofBothPages), final) := by
  obtain ⟨_, _, isWhole, _, _, isServed⟩ := collectPages_isComplete pagedHub.onlyAsks_fetchPage
    twoPages 2 pagedHub (Catalog.saved []).latest [⟨"x", "1"⟩, ⟨"y", "1"⟩]
  have bothRead : ((Page.read? firstText).bind fun first =>
      (Page.read? secondText).map fun second =>
        (first.nextToken, second.nextToken, Plan.assemble [⟨"x", "1"⟩, ⟨"y", "1"⟩]
          [.ok ⟨"x", "1"⟩, .ok ⟨"y", "1"⟩] (first.records ++ second.records))) =
      some (some "a b&c", some "", ofBothPages) := by
    decide +kernel
  obtain ⟨first, isFirst, secondRead⟩ := Option.bind_eq_some_iff.1 bothRead
  obtain ⟨second, isSecond, found⟩ := Option.map_eq_some_iff.1 secondRead
  simp only [Prod.mk.injEq] at found
  obtain ⟨firstToken, secondToken, isPlan⟩ := found
  have followed : AreFollowed none [first] := by
    refine areFollowed_cons_iff.2 ⟨?_, ?_, areFollowed_nil _⟩
    · rw [Page.isLast, firstToken]
      decide
    · rw [firstToken]
      decide
  have isLast : second.isLast = true := by
    rw [Page.isLast, secondToken]
    decide
  have firstUrl : pagedHub.pageUrl none = .ok (contentsWith "HubContentType=Model") := by
    decide +kernel
  have secondUrl : pagedHub.pageUrl first.nextToken =
      .ok (contentsWith "HubContentType=Model&NextToken=a+b%26c") := by
    rw [firstToken]
    decide +kernel
  have handsOut : pagedHub.HandsOut twoPages.network [] none ([first] ++ [second])
      [Hub.pageRequest (contentsWith "HubContentType=Model"),
        Hub.pageRequest (contentsWith "HubContentType=Model&NextToken=a+b%26c")] := by
    have firstAnswer : (Http.Reply.ofText 200 none firstText).text?.bind Page.read? =
        some first := by
      rw [Http.Reply.text?_ofText, Option.bind_some, isFirst]
    have secondAnswer : (Http.Reply.ofText 200 none secondText).text?.bind Page.read? =
        some second := by
      rw [Http.Reply.text?_ofText, Option.bind_some, isSecond]
    exact .page firstUrl (by decide +kernel) rfl rfl firstAnswer
      (.page secondUrl (by decide +kernel) rfl rfl secondAnswer (.none _ _))
  obtain ⟨final, served, allAsked⟩ := isServed twoPages [first] second _ followed isLast handsOut
  obtain ⟨plan, made, madeOfAll⟩ := isWhole _ _ _ _ _ rfl served (Nat.lt_succ_self 1)
  have assembled := madeOfAll (first.records ++ second.records) (by simp)
  have sameRun : twoPages.run (Plan.make (Catalog.saved []).latest
      (pure (.ok (first.records ++ second.records))) [⟨"x", "1"⟩, ⟨"y", "1"⟩]) =
      (.ok (.ok ofBothPages), twoPages) := by
    rw [← isPlan]
    rfl
  rw [sameRun] at assembled
  obtain rfl : ofBothPages = plan := Except.ok.inj (Except.ok.inj (congrArg Prod.fst assembled))
  exact ⟨_, _, _, final, handsOut, rfl, allAsked, made⟩

end Listing

end ModelHub
