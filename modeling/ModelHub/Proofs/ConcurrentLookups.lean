import Mathlib.Data.List.Forall2
import Mathlib.Logic.Relation
import ModelHub.Proofs.PlanFates

/-!
# Lookups that are answered in any order

The requests of a batch are resolved side by side: their resolutions begin in the order of the
requests, and a lookup that is under way may be answered at any time, before or after others begin.
The results are joined in the order of the requests once the last one is there. Whatever the order
of the answers, every request has the result that it would have alone, and the catalog is asked once
for each request for a latest version. Resolving requests one by one is one of those orders.
-/

namespace ModelHub

/-! ## Computations that ask the catalog -/

/-- A computation that is done with a value, or asks the catalog for a model and goes on with the
answer. -/
inductive Asking (α : Type) : Type where
  | done (value : α)
  | ask (modelId : String) (next : Except Failure String → Asking α)

namespace Asking

variable {α β : Type}

def bind : Asking α → (α → Asking β) → Asking β
  | done value, next => next value
  | ask modelId continuation, next => ask modelId fun answer => (continuation answer).bind next

instance : Monad Asking where
  pure := done
  bind := bind

/-- Asks for a model and is done with the answer. -/
def lookup (modelId : String) : Asking (Except Failure String) := ask modelId done

/-- The model that the computation has asked for and waits to hear of. -/
def asksFor : Asking α → List String
  | done _ => []
  | ask modelId _ => [modelId]

def value? : Asking α → Option α
  | done value => some value
  | ask _ _ => none

end Asking

namespace Resolution

theorem resolve_lookup_of_latest {request : Request} (latest : request.isLatest = true) :
    resolve Asking.lookup request =
      .ask request.modelId fun answer => .done (ofAnswer request answer) := by
  simp only [resolve, latest]
  rfl

theorem resolve_lookup_of_concrete {request : Request} (concrete : request.isLatest = false) :
    resolve Asking.lookup request = .done (.ok request) := by
  simp only [resolve, concrete]
  rfl

/-! ## Batches -/

/-- A request of a batch with the answer that the catalog gives to its lookup, should it be looked
up. Two lookups of one model can be answered differently. -/
structure Lookup where
  request : Request
  answer : Except Failure String

/-- What resolving the request alone gives when its lookup is answered so. -/
def Lookup.result (lookup : Lookup) : Except ResolveError Request :=
  resolve (m := Id) (fun _ => lookup.answer) lookup.request

/-- What a request comes to with the answer to its lookup: it is left as it is if it names a
version, and otherwise gets the version that was answered, or the error that the failure means. -/
inductive Gives (request : Request) (answer : Except Failure String) :
    Except ResolveError Request → Prop
  | named : request.isLatest = false → Gives request answer (.ok request)
  | found {version : String} :
      request.isLatest = true → answer = .ok version →
      Gives request answer (.ok ⟨request.modelId, version⟩)
  | absent {failure : Failure} :
      request.isLatest = true → answer = .error failure → failure.kind = .notFound →
      Gives request answer (.error (.notInCatalog request.modelId))
  | failed {failure : Failure} :
      request.isLatest = true → answer = .error failure → failure.kind ≠ .notFound →
      Gives request answer (.error (.lookupFailed request.modelId failure))

theorem Lookup.result_of_latest {lookup : Lookup} (latest : lookup.request.isLatest = true) :
    lookup.result = ofAnswer lookup.request lookup.answer :=
  resolveFrom_of_latest latest

theorem Lookup.result_of_concrete {lookup : Lookup} (concrete : lookup.request.isLatest = false) :
    lookup.result = .ok lookup.request :=
  resolveFrom_of_concrete concrete

theorem Lookup.gives_result (lookup : Lookup) :
    Gives lookup.request lookup.answer lookup.result := by
  cases latest : lookup.request.isLatest with
  | false =>
      rw [result_of_concrete latest]
      exact .named latest
  | true =>
      rw [result_of_latest latest]
      cases answered : lookup.answer with
      | ok version =>
          exact .found latest rfl
      | error failure =>
          rw [ofAnswer_error, ResolveError.ofFailure]
          by_cases absent : failure.kind = .notFound
          · rw [if_pos absent]
            exact .absent latest rfl absent
          · rw [if_neg absent]
            exact .failed latest rfl absent

/-- The models that have to be looked up for the requests, as often as they are requested at the
latest version. -/
def idsToLookUp (requests : List Request) : List String :=
  (requests.filter Request.isLatest).map Request.modelId

theorem idsToLookUp_append (requests others : List Request) :
    idsToLookUp (requests ++ others) = idsToLookUp requests ++ idsToLookUp others := by
  simp [idsToLookUp]

theorem idsToLookUp_cons (request : Request) (requests : List Request) :
    idsToLookUp (request :: requests) = idsToLookUp [request] ++ idsToLookUp requests :=
  idsToLookUp_append [request] requests

/-- A resolution that has begun asks for nothing but what has to be looked up for its request. -/
theorem asksFor_resolve (request : Request) :
    (resolve Asking.lookup request).asksFor = idsToLookUp [request] := by
  cases latest : request.isLatest with
  | false =>
      rw [resolve_lookup_of_concrete latest]
      simp [idsToLookUp, latest, Asking.asksFor]
  | true =>
      rw [resolve_lookup_of_latest latest]
      simp [idsToLookUp, latest, Asking.asksFor]

/-- A resolution that has begun, with what is left of it. -/
structure Begun where
  lookup : Lookup
  rest : Asking (Except ResolveError Request)

/-- The resolutions of a batch: those that have begun, in their order, those that have not, and all
that the catalog was asked for. -/
structure Batch where
  begun : List Begun
  waiting : List Lookup
  asked : List String

namespace Batch

/-- No resolution has begun. -/
def begin (lookups : List Lookup) : Batch := { begun := [], waiting := lookups, asked := [] }

/-- The results in the order of the requests, once the last one is there. -/
def results? (batch : Batch) : Option (List (Except ResolveError Request)) :=
  match batch.waiting with
  | [] => batch.begun.mapM fun item => item.rest.value?
  | _ :: _ => none

/-- The first resolution that waits begins and runs until it asks or is done, or one that has asked
is answered and goes on likewise. -/
inductive Step : Batch → Batch → Prop
  | begin (begun : List Begun) (lookup : Lookup) (waiting : List Lookup) (asked : List String) :
      Step ⟨begun, lookup :: waiting, asked⟩
        ⟨begun ++ [⟨lookup, resolve Asking.lookup lookup.request⟩], waiting,
          asked ++ (resolve Asking.lookup lookup.request).asksFor⟩
  | answer (before after : List Begun) (lookup : Lookup) (modelId : String)
      (next : Except Failure String → Asking (Except ResolveError Request))
      (waiting : List Lookup) (asked : List String) :
      Step ⟨before ++ ⟨lookup, .ask modelId next⟩ :: after, waiting, asked⟩
        ⟨before ++ ⟨lookup, next lookup.answer⟩ :: after, waiting,
          asked ++ (next lookup.answer).asksFor⟩

/-- The second batch comes of the first one by steps in any order. -/
abbrev Reaches : Batch → Batch → Prop := Relation.ReflTransGen Step

end Batch

/-! ## What every order keeps -/

/-- A resolution that has begun waits for its answer, or has its result. -/
inductive Begun.IsUnderWay : Begun → Prop
  | asking {lookup : Lookup} :
      lookup.request.isLatest = true →
      IsUnderWay ⟨lookup,
        .ask lookup.request.modelId fun answer => .done (ofAnswer lookup.request answer)⟩
  | resolved (lookup : Lookup) : IsUnderWay ⟨lookup, .done lookup.result⟩

theorem Begun.isUnderWay_resolve (lookup : Lookup) :
    Begun.IsUnderWay ⟨lookup, resolve Asking.lookup lookup.request⟩ := by
  cases latest : lookup.request.isLatest with
  | false =>
      rw [resolve_lookup_of_concrete latest, ← Lookup.result_of_concrete latest]
      exact .resolved lookup
  | true =>
      rw [resolve_lookup_of_latest latest]
      exact .asking latest

/-- An answer is all that a resolution still has to wait for. -/
theorem Begun.IsUnderWay.answered {lookup : Lookup} {modelId : String}
    {next : Except Failure String → Asking (Except ResolveError Request)}
    (underWay : IsUnderWay ⟨lookup, .ask modelId next⟩) :
    next lookup.answer = .done lookup.result := by
  cases underWay with
  | asking latest =>
      rw [Lookup.result_of_latest latest]

/-- A resolution that has a value has the result of its request. -/
theorem Begun.IsUnderWay.eq_of_value? {item : Begun} {value : Except ResolveError Request}
    (underWay : item.IsUnderWay) (isValue : item.rest.value? = some value) :
    value = item.lookup.result := by
  cases underWay with
  | asking latest =>
      cases isValue
  | resolved lookup =>
      exact (Option.some.inj isValue).symm

namespace Batch

/-- What holds in whatever order the lookups are answered: no resolution is lost or moved, each one
that has begun is under way, and the catalog was asked once for each of those that need it. -/
structure Keeps (lookups : List Lookup) (batch : Batch) : Prop where
  inOrder : batch.begun.map Begun.lookup ++ batch.waiting = lookups
  underWay : ∀ item ∈ batch.begun, item.IsUnderWay
  asked : batch.asked = idsToLookUp (batch.begun.map fun item => item.lookup.request)

variable {lookups : List Lookup} {batch next final : Batch}
  {results : List (Except ResolveError Request)}

theorem keeps_begin (lookups : List Lookup) : (begin lookups).Keeps lookups :=
  ⟨rfl, fun _ member => absurd member List.not_mem_nil, rfl⟩

theorem Step.keeps (step : Step batch next) (keeps : batch.Keeps lookups) :
    next.Keeps lookups := by
  obtain ⟨inOrder, underWay, asked⟩ := keeps
  cases step with
  | begin begun lookup waiting earlier =>
      refine ⟨by simpa using inOrder, ?_, ?_⟩
      · rw [List.forall_mem_append, List.forall_mem_singleton]
        exact ⟨underWay, Begun.isUnderWay_resolve lookup⟩
      · have askedEarlier : earlier = idsToLookUp (begun.map fun item => item.lookup.request) :=
          asked
        rw [asksFor_resolve, List.map_append, idsToLookUp_append, ← askedEarlier]
        rfl
  | answer before after lookup modelId next waiting earlier =>
      rw [List.forall_mem_append, List.forall_mem_cons] at underWay
      obtain ⟨beforeUnderWay, isUnderWay, afterUnderWay⟩ := underWay
      rw [isUnderWay.answered]
      refine ⟨by simpa using inOrder, ?_, ?_⟩
      · rw [List.forall_mem_append, List.forall_mem_cons]
        exact ⟨beforeUnderWay, .resolved lookup, afterUnderWay⟩
      · rw [Asking.asksFor, List.append_nil]
        simpa using asked

theorem Reaches.keeps (reached : Reaches batch final) (keeps : batch.Keeps lookups) :
    final.Keeps lookups := by
  induction reached with
  | refl =>
      exact keeps
  | tail _ step inductionHypothesis =>
      exact step.keeps inductionHypothesis

/-- At no time was the catalog asked for anything but the first of what has to be looked up. -/
theorem Keeps.asked_prefix (keeps : batch.Keeps lookups) :
    batch.asked <+: idsToLookUp (lookups.map Lookup.request) := by
  rw [keeps.asked, ← keeps.inOrder, List.map_append, List.map_map, idsToLookUp_append]
  exact List.prefix_append _ _

/-- Resolutions that are under way have values only if they have the results of their requests. -/
theorem eq_of_mapM_value? {begun : List Begun} (underWay : ∀ item ∈ begun, item.IsUnderWay)
    (haveValues : begun.mapM (fun item => item.rest.value?) = some results) :
    results = begun.map fun item => item.lookup.result := by
  induction begun generalizing results with
  | nil =>
      exact (Option.some.inj haveValues).symm
  | cons item begun inductionHypothesis =>
      rw [List.forall_mem_cons] at underWay
      rw [List.mapM_cons] at haveValues
      obtain ⟨value, isValue, others⟩ := Option.bind_eq_some_iff.1 haveValues
      obtain ⟨values, areValues, all⟩ := Option.bind_eq_some_iff.1 others
      obtain rfl := Option.some.inj all
      rw [underWay.1.eq_of_value? isValue, inductionHypothesis underWay.2 areValues, List.map_cons]

/-- The results that are joined are those of the requests alone, in their order, and by then the
catalog was asked for all that has to be looked up. -/
theorem Keeps.of_results? (keeps : batch.Keeps lookups) (joined : batch.results? = some results) :
    results = lookups.map Lookup.result ∧
      batch.asked = idsToLookUp (lookups.map Lookup.request) := by
  obtain ⟨begun, waiting, asked⟩ := batch
  cases waiting with
  | cons lookup waiting =>
      cases joined
  | nil =>
      obtain ⟨inOrder, underWay, isAsked⟩ := keeps
      rw [List.append_nil] at inOrder
      rw [eq_of_mapM_value? underWay joined, isAsked, ← inOrder]
      simp only [List.map_map, Function.comp_def, and_self]

/-! ## Every batch can be joined -/

end Batch

/-- The resolution of a request that has been answered, or needed no answer. -/
def Lookup.resolved (lookup : Lookup) : Begun := ⟨lookup, .done lookup.result⟩

namespace Batch

theorem mapM_value?_resolved (lookups : List Lookup) :
    (lookups.map Lookup.resolved).mapM (fun item => item.rest.value?) =
      some (lookups.map Lookup.result) := by
  induction lookups with
  | nil =>
      rfl
  | cons lookup lookups inductionHypothesis =>
      rw [List.map_cons, List.mapM_cons, inductionHypothesis]
      rfl

/-- The answers that resolutions wait for can be given in their order. -/
theorem reaches_answered (before : List Begun) {items : List Begun} (waiting : List Lookup)
    (asked : List String) (underWay : ∀ item ∈ items, item.IsUnderWay) :
    Reaches ⟨before ++ items, waiting, asked⟩
      ⟨before ++ items.map fun item => item.lookup.resolved, waiting, asked⟩ := by
  induction items generalizing before with
  | nil =>
      exact Relation.ReflTransGen.refl
  | cons item items inductionHypothesis =>
      rw [List.forall_mem_cons] at underWay
      have others := inductionHypothesis (before ++ [item.lookup.resolved]) underWay.2
      rw [List.append_assoc, List.append_assoc] at others
      obtain ⟨lookup, rest⟩ := item
      cases rest with
      | done value =>
          have isResult : value = lookup.result := underWay.1.eq_of_value? rfl
          rw [isResult]
          exact others
      | ask modelId next =>
          have answered := Step.answer before items lookup modelId next waiting asked
          rw [underWay.1.answered, Asking.asksFor, List.append_nil] at answered
          exact others.head answered

/-- The requests can be resolved one by one, each before the next one begins. -/
theorem reaches_oneByOne (begun : List Begun) (lookups : List Lookup) (asked : List String) :
    Reaches ⟨begun, lookups, asked⟩
      ⟨begun ++ lookups.map Lookup.resolved, [],
        asked ++ idsToLookUp (lookups.map Lookup.request)⟩ := by
  induction lookups generalizing begun asked with
  | nil =>
      have nothingLeft : asked ++ idsToLookUp [] = asked := List.append_nil asked
      rw [List.map_nil, List.append_nil, List.map_nil, nothingLeft]
  | cons lookup lookups inductionHypothesis =>
      have others := inductionHypothesis (begun ++ [lookup.resolved])
        (asked ++ idsToLookUp [lookup.request])
      rw [List.append_assoc, List.append_assoc, ← idsToLookUp_append] at others
      have begins := Step.begin begun lookup lookups asked
      rw [asksFor_resolve] at begins
      refine Relation.ReflTransGen.head begins (Relation.ReflTransGen.trans ?_ others)
      refine reaches_answered begun lookups _ ?_
      rw [List.forall_mem_singleton]
      exact Begun.isUnderWay_resolve lookup

/-- Whatever has happened, all results can still be joined. -/
theorem Keeps.exists_joined (keeps : batch.Keeps lookups) :
    ∃ final, Reaches batch final ∧ final.results? = some (lookups.map Lookup.result) := by
  obtain ⟨begun, waiting, asked⟩ := batch
  obtain ⟨inOrder, underWay, _⟩ := keeps
  have answered := reaches_answered [] waiting asked underWay
  have resolved := answered.trans (reaches_oneByOne _ waiting asked)
  refine ⟨_, resolved, ?_⟩
  have allResolved : [] ++ (begun.map fun item => item.lookup.resolved) ++
      waiting.map Lookup.resolved = lookups.map Lookup.resolved := by
    rw [← inOrder, List.map_append, List.map_map]
    rfl
  rw [allResolved]
  exact mapM_value?_resolved lookups

end Batch

/-! ## Resolving one by one -/

section OneByOne

variable {σ : Type} (catalog : String → σ → Except Failure String × σ)

/-- A catalog whose answers depend on the state that it is in, with a record of what it was asked
for. -/
def recorded (modelId : String) : StateM (σ × List String) (Except Failure String) := do
  let known ← get
  let answered := catalog modelId known.1
  set (answered.2, known.2 ++ [modelId])
  pure answered.1

/-- A request is resolved with the answer that the catalog gives at that time, if it is asked. -/
theorem exists_lookup (request : Request) (state : σ) (asked : List String) :
    ∃ (lookup : Lookup) (after : σ), lookup.request = request ∧
      (resolve (recorded catalog) request).run (state, asked) =
        pure (lookup.result, after, asked ++ idsToLookUp [request]) := by
  let lookup : Lookup := ⟨request, (catalog request.modelId state).1⟩
  cases latest : request.isLatest with
  | false =>
      have concrete : lookup.result = .ok request := Lookup.result_of_concrete latest
      refine ⟨lookup, state, rfl, ?_⟩
      rw [concrete]
      simp [resolve, latest, idsToLookUp]
  | true =>
      have answered : lookup.result = ofAnswer request (catalog request.modelId state).1 :=
        Lookup.result_of_latest latest
      refine ⟨lookup, (catalog request.modelId state).2, rfl, ?_⟩
      rw [answered]
      simp [resolve, latest, idsToLookUp, recorded]

/-- Resolving requests one by one gives each of them the result of the answer to its own lookup, and
asks for what has to be looked up. -/
theorem exists_lookups (requests : List Request) (state : σ) (asked : List String) :
    ∃ (lookups : List Lookup) (after : σ), lookups.map Lookup.request = requests ∧
      (resolveAll (recorded catalog) requests).run (state, asked) =
        pure (lookups.map Lookup.result, after, asked ++ idsToLookUp requests) := by
  induction requests generalizing state asked with
  | nil =>
      refine ⟨[], state, rfl, ?_⟩
      simp [resolveAll, idsToLookUp]
  | cons request requests inductionHypothesis =>
      obtain ⟨lookup, between, rfl, first⟩ := exists_lookup catalog request state asked
      obtain ⟨lookups, after, rfl, others⟩ :=
        inductionHypothesis between (asked ++ idsToLookUp [lookup.request])
      refine ⟨lookup :: lookups, after, rfl, ?_⟩
      rw [List.map_cons, idsToLookUp_cons, ← List.append_assoc]
      simp [resolveAll, first, others]

end OneByOne

/-! ## Batches in any order -/

open Batch

/-- Whatever the order in which lookups are answered, a batch can always be joined; at no time was
the catalog asked for anything but the first of what has to be looked up, and in the end it was
asked once for each request for a latest version. Each request has the result that it has alone.
Resolving requests one by one is one of those orders, whatever the catalog answers at what time. -/
theorem resolveAll_of_joined :
    (∀ lookups batch, Reaches (Batch.begin lookups) batch →
      batch.asked <+: idsToLookUp (lookups.map Lookup.request) ∧
        ∃ final results, Reaches batch final ∧ final.results? = some results) ∧
    (∀ lookups final results, Reaches (Batch.begin lookups) final →
      final.results? = some results →
      List.Forall₂ (fun lookup result => result = lookup.result ∧
        Gives lookup.request lookup.answer result) lookups results ∧
      final.asked = idsToLookUp (lookups.map Lookup.request)) ∧
    ∀ (σ : Type) (catalog : String → σ → Except Failure String × σ) (state : σ)
      (requests : List Request), ∃ lookups final results after,
        lookups.map Lookup.request = requests ∧ Reaches (Batch.begin lookups) final ∧
        final.results? = some results ∧
        (resolveAll (recorded catalog) requests).run (state, []) =
          (results, after, final.asked) := by
  refine ⟨fun lookups batch reached => ?_, fun lookups final results reached joined => ?_,
    fun σ catalog state requests => ?_⟩
  · have keeps := reached.keeps (keeps_begin lookups)
    obtain ⟨final, further, joined⟩ := keeps.exists_joined
    exact ⟨keeps.asked_prefix, final, _, further, joined⟩
  · obtain ⟨rfl, asked⟩ := (reached.keeps (keeps_begin lookups)).of_results? joined
    refine ⟨?_, asked⟩
    rw [List.forall₂_map_right_iff, List.forall₂_same]
    exact fun lookup _ => ⟨rfl, lookup.gives_result⟩
  · obtain ⟨lookups, after, rfl, run⟩ := exists_lookups catalog requests state []
    exact ⟨lookups, _, _, after, rfl, reaches_oneByOne [] lookups [],
      mapM_value?_resolved lookups, run⟩

/-- One model is requested twice at its latest version, and answered differently. -/
def fourLookups : List Lookup :=
  [⟨⟨"a", "*"⟩, .ok "2"⟩, ⟨⟨"b", "1"⟩, .ok "3"⟩, ⟨⟨"a", " "⟩, .error (.ofKind .timedOut)⟩,
    ⟨⟨"c", ""⟩, .error (.ofKind .notFound)⟩]

def fourResults : List (Except ResolveError Request) :=
  [.ok ⟨"a", "2"⟩, .ok ⟨"b", "1"⟩, .error (.lookupFailed "a" (.ofKind .timedOut)),
    .error (.notInCatalog "c")]

/-- The catalog has been asked three times, and only the second request has its result. -/
def threeAsked : Batch :=
  { begun :=
      [⟨⟨⟨"a", "*"⟩, .ok "2"⟩, .ask "a" fun answer => .done (ofAnswer ⟨"a", "*"⟩ answer)⟩,
        ⟨⟨⟨"b", "1"⟩, .ok "3"⟩, .done (.ok ⟨"b", "1"⟩)⟩,
        ⟨⟨⟨"a", " "⟩, .error (.ofKind .timedOut)⟩,
          .ask "a" fun answer => .done (ofAnswer ⟨"a", " "⟩ answer)⟩,
        ⟨⟨⟨"c", ""⟩, .error (.ofKind .notFound)⟩,
          .ask "c" fun answer => .done (ofAnswer ⟨"c", ""⟩ answer)⟩]
    waiting := []
    asked := ["a", "a", "c"] }

/-- All requests have their results. -/
def allJoined : Batch :=
  { begun := (fourLookups.zip fourResults).map fun item => ⟨item.1, .done item.2⟩
    waiting := []
    asked := ["a", "a", "c"] }

theorem resolveAll_of_joined_fourLookups :
    Reaches (Batch.begin fourLookups) threeAsked ∧ Reaches threeAsked allJoined ∧
      threeAsked.asked <+: idsToLookUp (fourLookups.map Lookup.request) ∧
      (∃ final results, Reaches threeAsked final ∧ final.results? = some results) ∧
      allJoined.results? = some fourResults ∧
      List.Forall₂ (fun lookup result => result = lookup.result ∧
        Gives lookup.request lookup.answer result) fourLookups fourResults ∧
      allJoined.asked = idsToLookUp (fourLookups.map Lookup.request) := by
  have begun : Reaches (Batch.begin fourLookups) threeAsked :=
    .head (.begin [] _ _ _) <| .head (.begin _ _ _ _) <| .head (.begin _ _ _ _) <|
    .head (.begin _ _ [] _) .refl
  -- The lookup that was begun last is answered first.
  have answered : Reaches threeAsked allJoined :=
    .head (.answer (threeAsked.begun.take 3) [] _ _ _ _ _) <|
    .head (.answer [] _ _ _ _ _ _) <|
    .head (.answer (allJoined.begun.take 2) _ _ _ _ _ _) .refl
  have joined : allJoined.results? = some fourResults := rfl
  obtain ⟨anyTime, atTheEnd, _⟩ := resolveAll_of_joined
  obtain ⟨askedFirst, joinable⟩ := anyTime fourLookups threeAsked begun
  obtain ⟨given, asked⟩ := atTheEnd fourLookups allJoined fourResults (begun.trans answered) joined
  exact ⟨begun, answered, askedFirst, joinable, joined, given, asked⟩

end Resolution

end ModelHub
