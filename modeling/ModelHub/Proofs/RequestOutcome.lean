import Mathlib.Tactic.SplitIfs
import ModelHub.Proofs.SessionRun

/-!
# What requests come to

A request comes to a reply, over the redirects before it, or to a failure to get one; and what is
asked for is read from the body of a reply that says it was served. Of all failures to get what was
asked for, only a reply with the status for it is one of a thing that is not found.
-/

namespace ModelHub.Http

/-! ## Replies and failures to get one -/

/-- What following a request comes to with so many redirects left, and what is exchanged for it: the
first reply that redirects to nowhere, or what was in the way of one. -/
inductive Comes : Nat → Request → List (Request × Answer) → Except Failure (Url × Reply) → Prop
  | unreachable (remaining : Nat) (request : Request) :
      Comes remaining request [(request, .unreachable)]
        (.error (transportFailure .connection .sending request.url))
  | dropped (remaining : Nat) (request : Request) :
      Comes remaining request [(request, .dropped)]
        (.error (transportFailure .unspecified .sending request.url))
  | replied {remaining : Nat} {request : Request} {reply : Reply} :
      redirect? request reply = none →
      Comes remaining request [(request, .reply reply)] (.ok (request.url, reply))
  | exhausted {request next : Request} {reply : Reply} :
      redirect? request reply = some next →
      Comes 0 request [(request, .reply reply)]
        (.error (transportFailure .unexpectedResponse .redirecting request.url))
  | elsewhere {remaining : Nat} {request next : Request} {reply : Reply} :
      redirect? request reply = some next → schemes.contains next.url.scheme = false →
      Comes (remaining + 1) request [(request, .reply reply)]
        (.error (transportFailure .unspecified .building next.url))
  | redirected {remaining : Nat} {request next : Request} {reply : Reply}
      {asked : List (Request × Answer)} {outcome : Except Failure (Url × Reply)} :
      redirect? request reply = some next → schemes.contains next.url.scheme = true →
      Comes remaining next asked outcome →
      Comes (remaining + 1) request ((request, .reply reply) :: asked) outcome

/-- What sending a request comes to: nothing is exchanged for one that cannot be sent. -/
inductive Request.Yields (request : Request) :
    List (Request × Answer) → Except Failure (Url × Reply) → Prop
  | unsent : isAskable request.sent.url = false →
      Yields request [] (.error (transportFailure .unspecified .building request.sent.url))
  | sent {asked : List (Request × Answer)} {outcome : Except Failure (Url × Reply)} :
      isAskable request.sent.url = true → Comes redirectLimit request.sent asked outcome →
      Yields request asked outcome

/-- What is read of what a request comes to: a value in the text of a reply that was served, or else
the failure to get one. -/
inductive Reads {value : Type} (read? : String → Option value) (url : Url) :
    Except Failure (Url × Reply) → Except Failure value → Prop
  | unanswered (failure : Failure) : Reads read? url (.error failure) (.error failure)
  | refused {source : Url} {reply : Reply} :
      reply.isSuccess = false →
      Reads read? url (.ok (source, reply))
        (.error (.because (.ofStatus reply.status)
          (.status source.render reply.status reply.shownText)))
  | unreadable {source : Url} {reply : Reply} :
      reply.isSuccess = true → reply.text?.bind read? = none →
      Reads read? url (.ok (source, reply)) (.error (unreadableBody url))
  | read {source : Url} {reply : Reply} {found : value} :
      reply.isSuccess = true → reply.text?.bind read? = some found →
      Reads read? url (.ok (source, reply)) (.ok found)

/-- There is a reply, and it has the status for what is not found. -/
def IsNotFound (outcome : Except Failure (Url × Reply)) : Prop :=
  ∃ source reply, outcome = .ok (source, reply) ∧ reply.status = 404

theorem exists_comes (remaining : Nat) (world : World) (request : Request) :
    ∃ outcome asked, world.run (follow remaining request) =
        (.ok outcome, { world with exchanges := world.exchanges ++ asked }) ∧
      Comes remaining request asked outcome := by
  induction remaining using Nat.strongRecOn generalizing world request with
  | ind remaining inductionHypothesis =>
      unfold follow
      rw [World.run_bind_of_ok (World.run_exchange world request)]
      have after : (world.exchange request).2 = { world with
          exchanges := world.exchanges ++ [(request, (world.exchange request).1)] } := rfl
      rw [after]
      generalize (world.exchange request).1 = answer
      cases answer with
      | unreachable =>
          exact ⟨_, _, rfl, .unreachable remaining request⟩
      | dropped =>
          exact ⟨_, _, rfl, .dropped remaining request⟩
      | reply reply =>
          cases redirects : redirect? request reply with
          | none =>
              simp only [redirects]
              exact ⟨_, _, rfl, .replied redirects⟩
          | some next =>
              simp only [redirects]
              cases remaining with
              | zero =>
                  exact ⟨_, _, rfl, .exhausted redirects⟩
              | succ fewer =>
                  dsimp only
                  split
                  · next isAskable =>
                      -- The redirect is followed in the world that this exchange leaves.
                      obtain ⟨outcome, asked, run, comes⟩ :=
                        inductionHypothesis fewer (Nat.lt_succ_self fewer) _ next
                      refine ⟨outcome, _, run.trans ?_, .redirected redirects isAskable comes⟩
                      rw [List.append_assoc]
                      rfl
                  · next notAskable =>
                      exact ⟨_, _, rfl, .elsewhere redirects (Bool.not_eq_true _ ▸ notAskable)⟩

theorem exists_yields (world : World) (request : Request) :
    ∃ outcome asked, world.run (send request) =
        (.ok outcome, { world with exchanges := world.exchanges ++ asked }) ∧
      request.Yields asked outcome := by
  by_cases askable : isAskable request.sent.url = true
  · have sent : send request = follow redirectLimit request.sent := if_pos askable
    obtain ⟨outcome, asked, run, comes⟩ := exists_comes redirectLimit world request.sent
    exact ⟨outcome, asked, sent ▸ run, .sent askable comes⟩
  · have failed : send request =
        pure (.error (transportFailure .unspecified .building request.sent.url)) :=
      if_neg askable
    refine ⟨_, [], ?_, .unsent (Bool.not_eq_true _ ▸ askable)⟩
    rw [failed, List.append_nil]
    rfl

/-- Whatever the service does, asking it for a value ends, with what is read of what the request
comes to. -/
theorem exists_reads {value : Type} (read? : String → Option value) (world : World)
    (request : Request) :
    ∃ outcome obtained asked, world.run (askFor read? request) =
        (.ok obtained, { world with exchanges := world.exchanges ++ asked }) ∧
      request.Yields asked outcome ∧ Reads read? request.url outcome obtained := by
  obtain ⟨outcome, asked, run, yields⟩ := exists_yields world request
  unfold askFor ask
  simp only [bind_assoc]
  rw [World.run_bind_of_ok run]
  cases outcome with
  | error failure =>
      exact ⟨_, _, asked, rfl, yields, .unanswered failure⟩
  | ok found =>
      obtain ⟨source, reply⟩ := found
      cases success : reply.isSuccess with
      | false =>
          refine ⟨_, _, asked, ?_, yields, .refused success⟩
          simp [requireSuccess, success]
      | true =>
          cases isRead : reply.text?.bind read? with
          | none =>
              refine ⟨_, _, asked, ?_, yields, .unreadable success isRead⟩
              simp [requireSuccess, success, isRead]
          | some found =>
              refine ⟨_, _, asked, ?_, yields, .read success isRead⟩
              simp [requireSuccess, success, isRead]

/-! ## Failures to find -/

variable {request : Request} {asked : List (Request × Answer)}
  {outcome : Except Failure (Url × Reply)}

@[simp]
theorem kind_transportFailure (kind : FailureKind) (fault : TransportFault) (url : Url) :
    (transportFailure kind fault url).kind = kind := rfl

theorem ofStatus_eq_notFound_iff {code : Nat} :
    FailureKind.ofStatus code = .notFound ↔ code = 404 := by
  unfold FailureKind.ofStatus
  split_ifs with isNotFound <;> simp [isNotFound]

theorem Comes.kind_ne_notFound {remaining : Nat} (comes : Comes remaining request asked outcome)
    {failure : Failure} (failed : outcome = .error failure) : failure.kind ≠ .notFound := by
  induction comes with
  | unreachable remaining request =>
      simp [← Except.error.inj failed]
  | dropped remaining request =>
      simp [← Except.error.inj failed]
  | replied stays =>
      cases failed
  | exhausted redirects =>
      simp [← Except.error.inj failed]
  | elsewhere redirects notAskable =>
      simp [← Except.error.inj failed]
  | redirected redirects isAskable comes inductionHypothesis =>
      exact inductionHypothesis failed

/-- No failure to get a reply is one of a thing that is not found. -/
theorem Request.Yields.kind_ne_notFound {failure : Failure}
    (yields : request.Yields asked (.error failure)) : failure.kind ≠ .notFound := by
  cases yields with
  | unsent notAskable =>
      simp
  | sent askable comes =>
      exact comes.kind_ne_notFound rfl

@[simp]
theorem isNotFound_ok_iff {source : Url} {reply : Reply} :
    IsNotFound (.ok (source, reply)) ↔ reply.status = 404 := by
  constructor
  · intro notFound
    obtain ⟨_, _, replied, status⟩ := notFound
    cases replied
    exact status
  · intro status
    exact ⟨source, reply, rfl, status⟩

@[simp]
theorem not_isNotFound_error (failure : Failure) : ¬ IsNotFound (.error failure) := by
  simp [IsNotFound]

theorem status_ne_of_isSuccess {reply : Reply} (success : reply.isSuccess = true) :
    reply.status ≠ 404 := by
  intro status
  rw [Reply.isSuccess, status] at success
  exact absurd success (by decide)

section Reads

variable {value : Type} {read? : String → Option value} {url : Url}

/-- What was read was found. -/
theorem Reads.not_isNotFound {found : value} (reads : Reads read? url outcome (.ok found)) :
    ¬ IsNotFound outcome := by
  cases reads with
  | read success isRead =>
      rw [isNotFound_ok_iff]
      exact status_ne_of_isSuccess success

/-- Only the status for it makes a failure one of a thing that is not found. -/
theorem Reads.kind_eq_notFound_iff {failure : Failure} (yields : request.Yields asked outcome)
    (reads : Reads read? url outcome (.error failure)) :
    failure.kind = .notFound ↔ IsNotFound outcome := by
  cases reads with
  | unanswered failure =>
      simp [yields.kind_ne_notFound]
  | refused refused =>
      rw [Failure.because, isNotFound_ok_iff, ofStatus_eq_notFound_iff]
  | unreadable success unreadable =>
      simp [unreadableBody, status_ne_of_isSuccess success]

end Reads

end ModelHub.Http
