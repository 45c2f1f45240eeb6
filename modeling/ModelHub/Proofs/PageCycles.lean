import Mathlib.Data.Finset.Card
import Mathlib.Logic.Relation
import ModelHub.Proofs.PagedListing

/-!
# Page tokens that come round

Of a hub whose pages are a function of the token, the listing ends exactly when the tokens do not
come round through others to one that was there before, and then within one fetch more than there
are tokens. Only a token that comes back at once is noticed: a hub with two tokens that lead to each
other is listed without an end.
-/

namespace ModelHub.Listing

/-! ## From token to token -/

section Leads

/-- The page for the token leads to the next one. -/
def Leads (answers : Option String → Except Failure Page) (token next : Option String) : Prop :=
  ∃ page, answers token = .ok page ∧ page.isLast = false ∧ page.nextToken = next

/-- From the token on, some token leads to another one and is led to again from there. -/
def ComesRound (answers : Option String → Except Failure Page) (token : Option String) : Prop :=
  ∃ again other, Relation.ReflTransGen (Leads answers) token again ∧ Leads answers again other ∧
    again ≠ other ∧ Relation.ReflTransGen (Leads answers) other again

variable {answers : Option String → Except Failure Page} {token next other : Option String}

theorem Leads.unique (leads : Leads answers token next) (leadsOther : Leads answers token other) :
    next = other := by
  obtain ⟨page, answered, _, rfl⟩ := leads
  obtain ⟨_, same, _, rfl⟩ := leadsOther
  obtain rfl := Except.ok.inj (answered.symm.trans same)
  rfl

theorem Leads.exists_eq_some (leads : Leads answers token next) : ∃ text, next = some text := by
  obtain ⟨page, _, goesOn, rfl⟩ := leads
  obtain ⟨text, isToken, _⟩ := Page.isLast_eq_false_iff.1 goesOn
  exact ⟨text, isToken⟩

theorem Leads.eq_of_reflTransGen (leads : Leads answers token token)
    (reached : Relation.ReflTransGen (Leads answers) token other) : other = token := by
  induction reached with
  | refl =>
      rfl
  | tail _ further inductionHypothesis =>
      rw [inductionHypothesis] at further
      exact further.unique leads

/-- Tokens that come round go on with another one, from which they come round. -/
theorem ComesRound.exists_leads (round : ComesRound answers token) :
    ∃ next, Leads answers token next ∧ token ≠ next ∧ ComesRound answers next := by
  obtain ⟨again, other, reached, leads, changes, back⟩ := round
  rcases Relation.ReflTransGen.cases_head reached with rfl | ⟨next, leadsNext, fromNext⟩
  · exact ⟨other, leads, changes, token, other, back, leads, changes, back⟩
  · refine ⟨next, leadsNext, ?_, again, other, fromNext, leads, changes, back⟩
    -- A token that leads to itself leads nowhere else, so it would be the one that comes round.
    rintro rfl
    obtain rfl := leadsNext.eq_of_reflTransGen fromNext
    exact changes (leadsNext.unique leads)

theorem ne_of_not_comesRound (noRound : ¬ ComesRound answers token)
    (leads : Leads answers token next) (changes : token ≠ next)
    (reached : Relation.ReflTransGen (Leads answers) next other) : other ≠ token := by
  rintro rfl
  exact noRound ⟨other, next, .refl, leads, changes, reached⟩

theorem not_comesRound_of_leads (noRound : ¬ ComesRound answers token)
    (leads : Leads answers token next) : ¬ ComesRound answers next := by
  intro round
  obtain ⟨again, other, reached, further⟩ := round
  exact noRound ⟨again, other, .head leads reached, further⟩

end Leads

/-! ## Fetches that depend on the token alone -/

/-- Over this network a fetch is answered as a function of its token. -/
def IsAnsweredBy (fetch : Option String → Session (Except Failure Page)) (network : Network)
    (answers : Option String → Except Failure Page) : Prop :=
  ∀ (world : World) token, world.network = network →
    (world.run (fetch token)).1 = .ok (answers token)

section Collect

variable {fetch : Option String → Session (Except Failure Page)} {network : Network}
  {answers : Option String → Except Failure Page} {token : Option String}

theorem IsAnsweredBy.exists_run (answered : IsAnsweredBy fetch network answers) {world : World}
    (isNetwork : world.network = network) (token : Option String) :
    ∃ after, world.run (fetch token) = (.ok (answers token), after) ∧ after.network = network := by
  refine ⟨(world.run (fetch token)).2, Prod.ext (answered world token isNetwork) rfl, ?_⟩
  rw [World.network_run, isNetwork]

/-- Where the tokens do not come round, collecting pages ends before the tokens ahead are used
up. -/
theorem exists_collects_of_not_comesRound (answered : IsAnsweredBy fetch network answers)
    (noRound : ¬ ComesRound answers token) {ahead : Finset String}
    (isAhead : ∀ text, Relation.ReflTransGen (Leads answers) token (some text) →
      some text ≠ token → text ∈ ahead)
    {world : World} (isNetwork : world.network = network) (collected : List Record) {limit : Nat}
    (enough : ahead.card < limit) :
    ∃ result final, Collects fetch world token collected limit (some result) final := by
  induction limit generalizing token ahead world collected with
  | zero =>
      exact absurd enough (Nat.not_lt_zero _)
  | succ limit inductionHypothesis =>
      obtain ⟨after, fetched, afterNetwork⟩ := answered.exists_run isNetwork token
      rcases exists_concludes_or_followed token collected (answers token) with
        ⟨result, concludes⟩ | ⟨page, isPage, goesOn, changes⟩
      · exact ⟨result, after, .of_concludes concludes fetched⟩
      · have leads : Leads answers token page.nextToken := ⟨page, isPage, goesOn, rfl⟩
        obtain ⟨text, isToken⟩ := leads.exists_eq_some
        have member : text ∈ ahead := by
          rw [isToken] at leads changes
          exact isAhead text (.single leads) changes.symm
        have fewer : (ahead.erase text).card < limit := by
          have smaller := Finset.card_erase_lt_of_mem member
          omega
        -- What is ahead of the next token is ahead of this one, and this one is not led to again.
        have stillAhead (further : String)
            (reached : Relation.ReflTransGen (Leads answers) page.nextToken (some further))
            (isOther : some further ≠ page.nextToken) : further ∈ ahead.erase text := by
          have notText : further ≠ text := fun same => isOther (by rw [same, isToken])
          have notToken := ne_of_not_comesRound noRound leads changes reached
          exact Finset.mem_erase.2 ⟨notText, isAhead further (.head leads reached) notToken⟩
        obtain ⟨result, final, collects⟩ := inductionHypothesis
          (not_comesRound_of_leads noRound leads) stillAhead afterNetwork
          (collected ++ page.records) fewer
        rw [isPage] at fetched
        exact ⟨result, final, collects.of_followed goesOn changes fetched⟩

/-- Where the tokens come round, every number of fetches is too small. -/
theorem exists_run_of_comesRound (answered : IsAnsweredBy fetch network answers)
    (round : ComesRound answers token) {world : World} (isNetwork : world.network = network)
    (collected : List Record) (limit : Nat) :
    ∃ final, world.run (collectPages fetch limit token collected) = (.ok none, final) := by
  induction limit generalizing token world collected with
  | zero =>
      exact ⟨world, rfl⟩
  | succ limit inductionHypothesis =>
      obtain ⟨next, ⟨page, isPage, goesOn, rfl⟩, changes, further⟩ := round.exists_leads
      obtain ⟨after, fetched, afterNetwork⟩ := answered.exists_run isNetwork token
      rw [isPage] at fetched
      obtain ⟨final, run⟩ := inductionHypothesis further afterNetwork (collected ++ page.records)
      exact ⟨final, (run_collectPages_of_followed goesOn changes fetched).trans run⟩

end Collect

/-- If pages are a function of the token and the listing comes to finitely many tokens, collecting
them ends exactly when the tokens do not come round through others, and then with at most one fetch
more than there are tokens. -/
theorem collectPages_ends_iff {fetch : Option String → Session (Except Failure Page)}
    {network : Network} {answers : Option String → Except Failure Page}
    (answered : IsAnsweredBy fetch network answers) {tokens : Finset String}
    (comesTo : ∀ text, Relation.ReflTransGen (Leads answers) none (some text) → text ∈ tokens)
    {world : World} (isNetwork : world.network = network) :
    ((∃ limit result final,
        world.run (collectPages fetch limit none []) = (.ok (some result), final)) ↔
      ¬ ComesRound answers none) ∧
    (¬ ComesRound answers none →
      ∃ result final, Collects fetch world none [] (tokens.card + 1) (some result) final ∧
        world.run (collectPages fetch (tokens.card + 1) none []) = (.ok (some result), final)) := by
  have ends (noRound : ¬ ComesRound answers none) : ∃ result final,
      Collects fetch world none [] (tokens.card + 1) (some result) final ∧
        world.run (collectPages fetch (tokens.card + 1) none []) =
          (.ok (some result), final) := by
    obtain ⟨result, final, collects⟩ := exists_collects_of_not_comesRound answered noRound
      (fun text reached _ => comesTo text reached) isNetwork [] (Nat.lt_succ_self tokens.card)
    exact ⟨result, final, collects, collects.run_eq⟩
  refine ⟨⟨fun ended round => ?_, fun noRound => ?_⟩, ends⟩
  · obtain ⟨limit, result, final, run⟩ := ended
    obtain ⟨_, endless⟩ := exists_run_of_comesRound answered round isNetwork [] limit
    cases run.symm.trans endless
  · obtain ⟨result, final, _, run⟩ := ends noRound
    exact ⟨tokens.card + 1, result, final, run⟩

/-! ## Services that answer steadily -/

/-- Every request is answered as it was at any other time. -/
def IsSteady (network : Network) : Prop :=
  ∀ earlier other request, network earlier request = network other request

theorem run_eq_of_isSteady {α : Type} {session : Session α} (onlyAsks : session.OnlyAsks)
    {network : Network} (steady : IsSteady network) {world other : World}
    (isNetwork : world.network = network) (otherNetwork : other.network = network) :
    (world.run session).1 = (other.run session).1 := by
  induction onlyAsks generalizing world other with
  | done value =>
      rfl
  | ask request next _ inductionHypothesis =>
      have sameAnswer : (world.exchange request).1 = (other.exchange request).1 := by
        unfold World.exchange
        rw [isNetwork, otherNetwork]
        exact steady _ _ request
      change ((world.exchange request).2.run (next (world.exchange request).1)).1 =
        ((other.exchange request).2.run (next (other.exchange request).1)).1
      rw [sameAnswer]
      exact inductionHypothesis _ isNetwork otherNetwork

/-- A hub that answers steadily gives its pages as a function of the token. -/
theorem exists_isAnsweredBy {fetch : Option String → Session (Except Failure Page)}
    (onlyAsks : ∀ token, (fetch token).OnlyAsks) {network : Network} (steady : IsSteady network) :
    ∃ answers, IsAnsweredBy fetch network answers := by
  have answer (token : Option String) : ∃ answer, ∀ world : World, world.network = network →
      (world.run (fetch token)).1 = .ok answer := by
    obtain ⟨answer, _, run⟩ := (onlyAsks token).exists_run (World.fresh [] network)
    have fresh : (World.fresh [] network).network = network := rfl
    refine ⟨answer, fun world isNetwork => ?_⟩
    rw [run_eq_of_isSteady (onlyAsks token) steady isNetwork fresh, run]
  choose answers answered using answer
  exact ⟨answers, fun world token isNetwork => answered token world isNetwork⟩

/-- The token that comes with a page in a world where nothing was asked before. -/
def tokenGiven (fetch : Option String → Session (Except Failure Page)) (network : Network)
    (token : Option String) : Except Ending (Except Failure (Option String)) :=
  ((World.fresh [] network).run (fetch token)).1.map fun answer => answer.map Page.nextToken

theorem IsAnsweredBy.leads_iff {fetch : Option String → Session (Except Failure Page)}
    {network : Network} {answers : Option String → Except Failure Page}
    (answered : IsAnsweredBy fetch network answers) {token : Option String} {text : String} :
    Leads answers token (some text) ↔
      tokenGiven fetch network token = .ok (.ok (some text)) ∧ text.isEmpty = false := by
  unfold tokenGiven
  rw [answered (World.fresh [] network) token rfl]
  constructor
  · intro leads
    obtain ⟨page, isPage, goesOn, isToken⟩ := leads
    obtain ⟨other, isOther, notEmpty⟩ := Page.isLast_eq_false_iff.1 goesOn
    obtain rfl := Option.some.inj (isToken.symm.trans isOther)
    rw [isPage, ← isToken]
    exact ⟨rfl, notEmpty⟩
  · intro given
    obtain ⟨isToken, notEmpty⟩ := given
    cases isPage : answers token with
    | error failure =>
        rw [isPage] at isToken
        cases isToken
    | ok page =>
        rw [isPage] at isToken
        have isText : page.nextToken = some text := Except.ok.inj (Except.ok.inj isToken)
        exact ⟨page, isPage, Page.isLast_eq_false_iff.2 ⟨text, isText, notEmpty⟩, isText⟩

/-- The service of a hub without records: the token that comes with a page, by its query. -/
def routed (tokens : List (String × String)) : Network := fun _ request =>
  .reply (.ofText 200 none ("\x7b\"NextToken\":\"" ++
    ((request.url.query.bind fun query => tokens.lookup query).getD "") ++ "\"\x7d"))

/-- The first page leads to a second one, which leads nowhere. -/
def leading : Network := routed [("HubContentType=Model", "a")]

theorem collectPages_ends_iff_leading :
    ∃ answers, IsAnsweredBy pagedHub.fetchPage leading answers ∧
      (∀ text, Relation.ReflTransGen (Leads answers) none (some text) →
        text ∈ ({"a"} : Finset String)) ∧
      ¬ ComesRound answers none ∧
      ∃ result final, (World.fresh [] leading).run (collectPages pagedHub.fetchPage 2 none []) =
        (.ok (some result), final) := by
  have steady : IsSteady leading := fun _ _ _ => rfl
  obtain ⟨answers, answered⟩ := exists_isAnsweredBy pagedHub.onlyAsks_fetchPage steady
  have fromFirst : Leads answers none (some "a") :=
    answered.leads_iff.2 ⟨by decide +kernel, by decide⟩
  have fromSecond (next : Option String) : ¬ Leads answers (some "a") next := by
    intro leads
    obtain ⟨text, rfl⟩ := leads.exists_eq_some
    obtain ⟨given, notEmpty⟩ := answered.leads_iff.1 leads
    have isEmpty : tokenGiven pagedHub.fetchPage leading (some "a") = .ok (.ok (some "")) := by
      decide +kernel
    cases isEmpty.symm.trans given
    exact absurd notEmpty (by decide)
  have comesTo (text : String) (reached : Relation.ReflTransGen (Leads answers) none (some text)) :
      text ∈ ({"a"} : Finset String) := by
    rcases Relation.ReflTransGen.cases_head reached with isNone | ⟨next, leads, further⟩
    · cases isNone
    · obtain rfl := fromFirst.unique leads
      rcases Relation.ReflTransGen.cases_head further with isSecond | ⟨next, leads, _⟩
      · obtain rfl := Option.some.inj isSecond
        exact Finset.mem_singleton_self "a"
      · exact absurd leads (fromSecond next)
  have noRound : ¬ ComesRound answers none := by
    intro round
    obtain ⟨next, leads, _, further⟩ := round.exists_leads
    obtain rfl := fromFirst.unique leads
    obtain ⟨last, leads, _⟩ := further.exists_leads
    exact fromSecond last leads
  have isNetwork : (World.fresh [] leading).network = leading := rfl
  obtain ⟨_, ends⟩ := collectPages_ends_iff answered comesTo isNetwork
  obtain ⟨result, final, _, run⟩ := ends noRound
  exact ⟨answers, answered, comesTo, noRound, result, final, run⟩

/-- Two tokens lead to each other. -/
def turning : Network := routed
  [("HubContentType=Model", "a"), ("HubContentType=Model&NextToken=a", "b"),
    ("HubContentType=Model&NextToken=b", "a")]

/-- A hub with two tokens is listed without an end, however many fetches are allowed. -/
theorem listRecords_unfinished_turning :
    ∃ answers, IsAnsweredBy pagedHub.fetchPage turning answers ∧
      (∀ text, Relation.ReflTransGen (Leads answers) none (some text) →
        text ∈ ({"a", "b"} : Finset String)) ∧
      ∀ limit, ((World.fresh [] turning).run (pagedHub.listRecords limit)).1 =
        .error .unfinished := by
  have steady : IsSteady turning := fun _ _ _ => rfl
  obtain ⟨answers, answered⟩ := exists_isAnsweredBy pagedHub.onlyAsks_fetchPage steady
  have fromFirst : Leads answers none (some "a") :=
    answered.leads_iff.2 ⟨by decide +kernel, by decide⟩
  have aToB : Leads answers (some "a") (some "b") :=
    answered.leads_iff.2 ⟨by decide +kernel, by decide⟩
  have bToA : Leads answers (some "b") (some "a") :=
    answered.leads_iff.2 ⟨by decide +kernel, by decide⟩
  have round : ComesRound answers none :=
    ⟨some "a", some "b", .single fromFirst, aToB, by decide, .single bToA⟩
  have comesTo (token : Option String)
      (reached : Relation.ReflTransGen (Leads answers) none token) :
      token = none ∨ token = some "a" ∨ token = some "b" := by
    induction reached with
    | refl =>
        exact Or.inl rfl
    | tail _ leads inductionHypothesis =>
        rcases inductionHypothesis with rfl | rfl | rfl
        · exact Or.inr (Or.inl (leads.unique fromFirst))
        · exact Or.inr (Or.inr (leads.unique aToB))
        · exact Or.inr (Or.inl (leads.unique bToA))
  refine ⟨answers, answered, fun text reached => ?_, fun limit => ?_⟩
  · have isToken := comesTo (some text) reached
    simpa using isToken
  · have isNetwork : (World.fresh [] turning).network = turning := rfl
    obtain ⟨final, run⟩ := exists_run_of_comesRound answered round isNetwork [] limit
    unfold Hub.listRecords
    rw [World.run_bind_of_ok run]
    rfl

end ModelHub.Listing
