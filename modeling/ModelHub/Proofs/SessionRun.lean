import ModelHub.Http.Client
import ModelHub.World

/-!
# Carrying out sessions

A session that goes on with another one is carried out by carrying out both, the second one in the
world that the first one leaves. A request that no answer leads elsewhere is one exchange, and
redirects that are followed come to an end.
-/

namespace ModelHub

/-! ## Sessions one after another -/

namespace Session

variable {α β γ : Type}

theorem bind_done (session : Session α) : session.bind done = session := by
  induction session with
  | done value =>
      rfl
  | halt ending =>
      rfl
  | act action next inductionHypothesis =>
      exact congrArg (act action) (funext inductionHypothesis)

theorem bind_bind (session : Session α) (next : α → Session β) (last : β → Session γ) :
    (session.bind next).bind last = session.bind fun value => (next value).bind last := by
  induction session with
  | done value =>
      rfl
  | halt ending =>
      rfl
  | act action continuation inductionHypothesis =>
      exact congrArg (act action) (funext inductionHypothesis)

instance : LawfulMonad Session :=
  LawfulMonad.mk' Session bind_done (fun _ _ => rfl) bind_bind

end Session

namespace World

variable {α β : Type} {world after : World}

@[simp]
theorem run_pure (world : World) (value : α) : world.run (pure value) = (.ok value, world) := rfl

theorem run_bind (world : World) (first : Session α) (next : α → Session β) :
    world.run (first >>= next) =
      match world.run first with
      | (.ok value, after) => after.run (next value)
      | (.error ending, after) => (.error ending, after) := by
  induction first generalizing world with
  | done value =>
      rfl
  | halt ending =>
      rfl
  | act action continuation inductionHypothesis =>
      exact inductionHypothesis (world.perform action).1 (world.perform action).2

/-- Where a session gives a value, what follows is carried out in the world that it leaves. -/
theorem run_bind_of_ok {first : Session α} {value : α}
    (given : world.run first = (.ok value, after)) (next : α → Session β) :
    world.run (first >>= next) = after.run (next value) := by
  rw [run_bind, given]

/-- A session that goes on with another one gives a value only where both do. -/
theorem run_bind_eq_ok_iff {first : Session α} {next : α → Session β} {given : β} :
    world.run (first >>= next) = (.ok given, after) ↔
      ∃ value between, world.run first = (.ok value, between) ∧
        between.run (next value) = (.ok given, after) := by
  rw [run_bind]
  rcases world.run first with ⟨ending | value, between⟩
  · simp
  · constructor
    · intro goesOn
      exact ⟨value, between, rfl, goesOn⟩
    · intro both
      rcases both with ⟨_, _, same, goesOn⟩
      cases same
      exact goesOn

theorem run_exchange (world : World) (request : Http.Request) :
    world.run (Session.exchange request) =
      (.ok (world.exchange request).1, (world.exchange request).2) := rfl

/-- The network is the same before and after a session. -/
@[simp]
theorem network_run (world : World) (session : Session α) :
    (world.run session).2.network = world.network := by
  induction session generalizing world with
  | done value =>
      rfl
  | halt ending =>
      rfl
  | act action continuation inductionHypothesis =>
      refine (inductionHypothesis (world.perform action).1 (world.perform action).2).trans ?_
      cases action <;> rfl

end World

/-! ## Sessions that ask and do nothing else -/

namespace Session

variable {α β : Type}

/-- All that the session does is to send requests, and whatever they are answered, it is done in the
end. -/
inductive OnlyAsks : Session α → Prop
  | done (value : α) : OnlyAsks (.done value)
  | ask (request : Http.Request) (next : Http.Answer → Session α) :
      (∀ answer, OnlyAsks (next answer)) → OnlyAsks (.act (.exchange request) next)

theorem onlyAsks_exchange (request : Http.Request) : (exchange request).OnlyAsks :=
  .ask request .done .done

theorem OnlyAsks.bind {first : Session α} {next : α → Session β} (onlyAsks : first.OnlyAsks)
    (others : ∀ value, (next value).OnlyAsks) : (first >>= next).OnlyAsks := by
  induction onlyAsks with
  | done value =>
      exact others value
  | ask request continuation _ inductionHypothesis =>
      exact .ask request _ inductionHypothesis

theorem OnlyAsks.exists_run {session : Session α} (onlyAsks : session.OnlyAsks) (world : World) :
    ∃ value asked, world.run session =
      (.ok value, { world with exchanges := world.exchanges ++ asked }) := by
  induction onlyAsks generalizing world with
  | done value =>
      refine ⟨value, [], ?_⟩
      rw [List.append_nil, World.run]
  | ask request next _ inductionHypothesis =>
      obtain ⟨value, asked, run⟩ := inductionHypothesis _ (world.exchange request).2
      refine ⟨value, (request, (world.exchange request).1) :: asked, run.trans ?_⟩
      rw [World.exchange, List.append_assoc]
      rfl

end Session

/-! ## Requests over the network -/

namespace Http

theorem Reply.isSuccess_of_status {reply : Reply} (status : reply.status = 200) :
    reply.isSuccess = true := by
  rw [isSuccess, status]
  decide

/-- A reply with success redirects to nowhere. -/
theorem redirect?_of_isSuccess (request : Request) {reply : Reply}
    (success : reply.isSuccess = true) : redirect? request reply = none := by
  have below : reply.status < 300 := by
    simp only [Reply.isSuccess, Bool.and_eq_true, decide_eq_true_eq] at success
    exact success.2
  have notGetting : gettingRedirects.contains reply.status = false := by
    have all : ∀ status ∈ gettingRedirects, 300 ≤ status := by decide
    simpa using fun member => absurd (all reply.status member) (Nat.not_le_of_lt below)
  have notKeeping : keepingRedirects.contains reply.status = false := by
    have all : ∀ status ∈ keepingRedirects, 300 ≤ status := by decide
    simpa using fun member => absurd (all reply.status member) (Nat.not_le_of_lt below)
  unfold redirect?
  simp only [notGetting, notKeeping]
  split
  · simp
  · rfl

/-- What is sent of a request: user name and password do not travel in the URL. -/
def Request.sent (request : Request) : Request :=
  { request with url := request.url.withoutCredentials }

/-- What a request comes to that an answer leads nowhere else from: the URL with the reply, or the
failure to get one. -/
def followed (request : Request) : Answer → Except Failure (Url × Reply)
  | .reply reply => .ok (request.url, reply)
  | .dropped => .error (transportFailure .unspecified .sending request.url)
  | .unreachable => .error (transportFailure .connection .sending request.url)

/-- The answer to the request does not lead to another one. -/
def Request.Stays (request : Request) (answer : Answer) : Prop :=
  ∀ reply, answer = .reply reply → redirect? request reply = none

/-- What a request comes to that has to be served, if its answer leads nowhere else. -/
def served (request : Request) (answer : Answer) : Except Failure Reply :=
  match followed request answer with
  | .error failure => .error failure
  | .ok (url, reply) => requireSuccess url reply

variable {world : World} {request : Request}

/-- A request passes over the network once unless its answer leads elsewhere. -/
theorem run_follow (remaining : Nat) (stays : request.Stays (world.exchange request).1) :
    world.run (follow remaining request) =
      (.ok (followed request (world.exchange request).1), (world.exchange request).2) := by
  unfold follow
  rw [World.run_bind_of_ok (World.run_exchange world request)]
  generalize (world.exchange request).1 = answer at stays
  cases answer with
  | dropped =>
      rfl
  | unreachable =>
      rfl
  | reply reply =>
      simp only [stays reply rfl]
      rfl

theorem run_ask (askable : isAskable request.sent.url = true)
    (stays : request.sent.Stays (world.exchange request.sent).1) :
    world.run (ask request) =
      (.ok (served request.sent (world.exchange request.sent).1),
        (world.exchange request.sent).2) := by
  have sent : send request = follow redirectLimit request.sent := if_pos askable
  unfold ask
  rw [sent, World.run_bind_of_ok (run_follow redirectLimit stays)]
  cases (world.exchange request.sent).1 <;> rfl

/-- What cannot be sent leaves no trace. -/
theorem run_ask_of_not_askable (notAskable : isAskable request.sent.url = false) :
    world.run (ask request) =
      (.ok (.error (transportFailure .unspecified .building request.sent.url)), world) := by
  have failed : send request =
      pure (.error (transportFailure .unspecified .building request.sent.url)) :=
    if_neg (by
      rw [Bool.not_eq_true]
      exact notAskable)
  unfold ask
  rw [failed]
  rfl

/-- Following redirects comes to an end, with a reply or with a failure. -/
theorem onlyAsks_follow (remaining : Nat) (request : Request) :
    (follow remaining request).OnlyAsks := by
  induction remaining using Nat.strongRecOn generalizing request with
  | ind remaining inductionHypothesis =>
      unfold follow
      refine (Session.onlyAsks_exchange request).bind fun answer => ?_
      cases answer with
      | unreachable =>
          exact .done _
      | dropped =>
          exact .done _
      | reply reply =>
          cases redirected : redirect? request reply with
          | none =>
              simp only [redirected]
              exact .done _
          | some next =>
              simp only [redirected]
              split
              · exact .done _
              · rename_i fewer
                split
                · exact inductionHypothesis fewer (Nat.lt_succ_self fewer) next
                · exact .done _

theorem onlyAsks_ask (request : Request) : (ask request).OnlyAsks := by
  have sent : (send request).OnlyAsks := by
    unfold send
    dsimp only
    split
    · exact onlyAsks_follow redirectLimit _
    · exact .done _
  refine sent.bind fun result => ?_
  cases result with
  | error failure =>
      exact .done _
  | ok found =>
      exact .done _

theorem onlyAsks_order (request : Request) : (order request).OnlyAsks := by
  refine (onlyAsks_ask request).bind fun result => ?_
  cases result with
  | error failure =>
      exact .done _
  | ok reply =>
      exact .done _

theorem onlyAsks_askFor {value : Type} (read? : String → Option value) (request : Request) :
    (askFor read? request).OnlyAsks := by
  refine (onlyAsks_ask request).bind fun result => ?_
  cases result with
  | error failure =>
      exact .done _
  | ok reply =>
      cases found : reply.text?.bind read? with
      | none =>
          simp only [found]
          exact .done _
      | some value =>
          simp only [found]
          exact .done _

/-- A body that is what was asked for is given as such. -/
theorem run_askFor {value : Type} {read? : String → Option value} {reply : Reply} {found : value}
    {after : World} (served : world.run (ask request) = (.ok (.ok reply), after))
    (isFound : reply.text?.bind read? = some found) :
    world.run (askFor read? request) = (.ok (.ok found), after) := by
  unfold askFor
  rw [World.run_bind_of_ok served]
  simp only [isFound]
  rfl

/-- What is asked for is found at once in a reply with success. -/
theorem run_askFor_of_isSuccess {value : Type} {read? : String → Option value} {reply : Reply}
    {found : value} (askable : isAskable request.sent.url = true)
    (answered : (world.exchange request.sent).1 = .reply reply) (success : reply.isSuccess = true)
    (isFound : reply.text?.bind read? = some found) :
    world.run (askFor read? request) = (.ok (.ok found), (world.exchange request.sent).2) := by
  have stays : request.sent.Stays (world.exchange request.sent).1 := by
    intro other isReply
    obtain rfl := Answer.reply.inj (answered.symm.trans isReply)
    exact redirect?_of_isSuccess request.sent success
  refine run_askFor ?_ isFound
  rw [run_ask askable stays, answered]
  simp only [Http.served, followed, requireSuccess, success, if_true]

end Http

end ModelHub
