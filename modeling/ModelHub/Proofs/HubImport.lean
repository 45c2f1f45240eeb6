import ModelHub.Hub
import ModelHub.Proofs.DispatchRun

/-!
# Importing models

A sync asks once at the URL for imports for its model, unless the answer leads elsewhere, and
succeeds where the answer is one of success. Where the URL cannot be asked at all, no sync leaves a
trace.
-/

namespace ModelHub

/-! ## Requests to import -/

namespace Http

/-- The answer is a reply whose status says that what was asked for is done. -/
def Answer.IsSuccess (answer : Answer) : Prop :=
  ∃ reply, answer = .reply reply ∧ 200 ≤ reply.status ∧ reply.status < 300

theorem exists_served_iff_isSuccess (request : Request) (answer : Answer) :
    (∃ body, served request answer = .ok body) ↔ answer.IsSuccess := by
  cases answer with
  | dropped =>
      simp [served, followed, Answer.IsSuccess]
  | unreachable =>
      simp [served, followed, Answer.IsSuccess]
  | reply reply =>
      have isSuccess_iff : (Answer.reply reply).IsSuccess ↔ reply.isSuccess = true := by
        simp [Answer.IsSuccess, Reply.isSuccess]
      rw [isSuccess_iff]
      by_cases success : reply.isSuccess = true
      · simp [served, followed, requireSuccess, success]
      · simp [served, followed, requireSuccess, success]

/-- What is ordered is done where the answer says so, if the answer leads nowhere else. -/
theorem exists_run_order (world : World) (request : Request)
    (askable : isAskable request.sent.url = true)
    (stays : request.sent.Stays (world.exchange request.sent).1) :
    ∃ result, world.run (order request) = (.ok result, (world.exchange request.sent).2) ∧
      (result = .ok () ↔ (world.exchange request.sent).1.IsSuccess) := by
  unfold order
  rw [World.run_bind_of_ok (run_ask askable stays), ← exists_served_iff_isSuccess request.sent]
  cases served request.sent (world.exchange request.sent).1 with
  | error failure =>
      exact ⟨_, rfl, by simp⟩
  | ok body =>
      exact ⟨_, rfl, by simp⟩

theorem exists_run_order_of_not_askable (world : World) (request : Request)
    (notAskable : isAskable request.sent.url = false) :
    ∃ failure, world.run (order request) = (.ok (.error failure), world) := by
  unfold order
  rw [World.run_bind_of_ok (run_ask_of_not_askable notAskable)]
  exact ⟨_, rfl⟩

end Http

theorem Outcome.succeeded_iff {outcome : Outcome} :
    outcome.succeeded = true ↔ outcome.result = .ok () := by
  obtain ⟨decision, result⟩ := outcome
  cases result <;> simp [succeeded]

/-- The exchange asks the URL to import the model of the decision at its version, with the two
keywords of their tag, and the sync succeeds if and only if that is answered with success. -/
structure Outcome.IsPosted (outcome : Outcome) (url : Url)
    (exchange : Http.Request × Http.Answer) : Prop where
  isPost : exchange.1.method = .post
  target : exchange.1.url = url.withoutCredentials
  document : exchange.1.body = some (.object
    [("ModelId", .string outcome.decision.request.modelId),
      ("ModelVersion", .string outcome.decision.request.version),
      ("HubContentSearchKeywords", .array
        [.string (Tag.modelIdStart ++ outcome.decision.request.modelId),
          .string (Tag.versionStart ++ outcome.decision.request.version)])])
  succeeded_iff : outcome.succeeded = true ↔ exchange.2.IsSuccess

/-- Whatever was asked before, no answer to the request leads elsewhere. -/
def World.NeverRedirects (world : World) (request : Http.Request) : Prop :=
  ∀ earlier, request.Stays (world.network earlier request)

namespace Hub

/-- The request to import a model, as it is sent. -/
def importRequest (url : Url) (request : Request) : Http.Request :=
  Http.Request.sent ⟨.post, url, some (importBody request)⟩

theorem onlyAsks_syncModel (hub : Hub) (decision : Decision) :
    (hub.syncModel decision).OnlyAsks := by
  unfold syncModel withUrl
  split
  · exact .done _
  · exact Http.onlyAsks_order _

variable {hub : Hub} {url : Url} {world after final : World} {outcome : Outcome}
  {outcomes : List Outcome}

theorem syncModel_of_importsUrl (imports : hub.importsUrl = .ok url) (decision : Decision) :
    hub.syncModel decision = Http.order ⟨.post, url, some (importBody decision.request)⟩ := by
  rw [syncModel, imports]
  rfl

/-- A sync that nothing redirects is one exchange. -/
theorem isPosted_of_run (imports : hub.importsUrl = .ok url)
    (askable : Http.isAskable url.withoutCredentials = true)
    (stays : world.NeverRedirects (importRequest url outcome.decision.request))
    (run : world.run (hub.syncModel outcome.decision) = (.ok outcome.result, after)) :
    after = (world.exchange (importRequest url outcome.decision.request)).2 ∧
      outcome.IsPosted url (importRequest url outcome.decision.request,
        (world.exchange (importRequest url outcome.decision.request)).1) := by
  obtain ⟨result, ordered, isOk_iff⟩ := Http.exists_run_order world
    ⟨.post, url, some (importBody outcome.decision.request)⟩ askable (stays _)
  rw [← syncModel_of_importsUrl imports, run] at ordered
  cases ordered
  have succeeded := Outcome.succeeded_iff.trans isOk_iff
  exact ⟨rfl, rfl, rfl, rfl, succeeded⟩

theorem failed_of_run_of_not_askable (imports : hub.importsUrl = .ok url)
    (notAskable : Http.isAskable url.withoutCredentials = false)
    (run : world.run (hub.syncModel outcome.decision) = (.ok outcome.result, after)) :
    after = world ∧ outcome.succeeded = false := by
  obtain ⟨failure, failed⟩ := Http.exists_run_order_of_not_askable world
    ⟨.post, url, some (importBody outcome.decision.request)⟩ notAskable
  rw [← syncModel_of_importsUrl imports, run] at failed
  obtain ⟨decision, result⟩ := outcome
  cases failed
  exact ⟨rfl, rfl⟩

/-- Where nothing redirects, every sync has one exchange, and there are no others. -/
theorem exists_exchanges_of_executes (imports : hub.importsUrl = .ok url)
    (askable : Http.isAskable url.withoutCredentials = true)
    (stays : ∀ outcome ∈ outcomes,
      world.NeverRedirects (importRequest url outcome.decision.request))
    (executes : World.Executes hub.syncModel world outcomes final) :
    ∃ posts, final.exchanges = world.exchanges ++ posts ∧
      List.Forall₂ (fun outcome post => outcome.IsPosted url post) outcomes posts := by
  induction executes with
  | nil world =>
      exact ⟨[], (List.append_nil world.exchanges).symm, .nil⟩
  | @cons world between final outcome outcomes first _ inductionHypothesis =>
      obtain ⟨staysFirst, staysLater⟩ := List.forall_mem_cons.1 stays
      obtain ⟨rfl, posted⟩ := isPosted_of_run imports askable staysFirst first
      obtain ⟨posts, exchanges, postedLater⟩ := inductionHypothesis staysLater
      refine ⟨_ :: posts, ?_, .cons posted postedLater⟩
      rw [exchanges, World.exchange, List.append_assoc]
      rfl

/-- A URL that cannot be asked makes every sync fail without a trace. -/
theorem failed_of_executes_of_not_askable (imports : hub.importsUrl = .ok url)
    (notAskable : Http.isAskable url.withoutCredentials = false)
    (executes : World.Executes hub.syncModel world outcomes final) :
    final = world ∧ ∀ outcome ∈ outcomes, outcome.succeeded = false := by
  induction executes with
  | nil world =>
      exact ⟨rfl, fun _ member => absurd member List.not_mem_nil⟩
  | cons first _ inductionHypothesis =>
      obtain ⟨rfl, failed⟩ := failed_of_run_of_not_askable imports notAskable first
      obtain ⟨same, failedLater⟩ := inductionHypothesis
      exact ⟨same, List.forall_mem_cons.2 ⟨failed, failedLater⟩⟩

end Hub

end ModelHub
