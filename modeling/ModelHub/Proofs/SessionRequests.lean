import ModelHub.Proofs.HubImport
import ModelHub.Proofs.RequestOutcome

/-!
# Requests that sessions send

A session is known by the requests that it sends, whatever they are answered. What goes on with
another session sends what both send. A request that is followed over redirects is sent first as it
is, and what it leads to asks for the same or only gets something.
-/

namespace ModelHub

/-! ## What sessions send -/

namespace Session

variable {α β : Type} {allowed : Http.Request → Prop}

/-- In every world, what the session adds to the exchanges is as the account says. -/
def Exchanges (account : List (Http.Request × Http.Answer) → Prop) (session : Session α) : Prop :=
  ∀ world : World, ∃ asked, (world.run session).2.exchanges = world.exchanges ++ asked ∧
    account asked

/-- All requests that the session sends are allowed. -/
def Sends (allowed : Http.Request → Prop) (session : Session α) : Prop :=
  session.Exchanges fun asked => ∀ exchange ∈ asked, allowed exchange.1

/-- All that the session sends gets something. -/
def Looks (session : Session α) : Prop := session.Sends fun request => request.method = .get

/-- The session sends nothing. -/
def IsSilent (session : Session α) : Prop := session.Sends fun _ => False

theorem Sends.mono {others : Http.Request → Prop} {session : Session α}
    (sends : session.Sends allowed) (weaker : ∀ request, allowed request → others request) :
    session.Sends others := by
  intro world
  obtain ⟨asked, exchanges, all⟩ := sends world
  exact ⟨asked, exchanges, fun exchange member => weaker exchange.1 (all exchange member)⟩

theorem IsSilent.sends {session : Session α} (silent : session.IsSilent) : session.Sends allowed :=
  Sends.mono silent fun _ => False.elim

theorem IsSilent.exchanges_eq {session : Session α} {world after : World}
    {result : Except Ending α} (silent : session.IsSilent)
    (run : world.run session = (result, after)) : after.exchanges = world.exchanges := by
  obtain ⟨asked, exchanges, none⟩ := silent world
  obtain rfl := List.eq_nil_iff_forall_not_mem.2 none
  rw [run, List.append_nil] at exchanges
  exact exchanges

theorem isSilent_of_exchanges {session : Session α}
    (same : ∀ world : World, (world.run session).2.exchanges = world.exchanges) :
    session.IsSilent := by
  intro world
  refine ⟨[], ?_, fun _ member => absurd member List.not_mem_nil⟩
  rw [same, List.append_nil]

theorem isSilent_pure (value : α) : (pure value : Session α).IsSilent :=
  isSilent_of_exchanges fun _ => rfl

theorem sends_pure (value : α) : (pure value : Session α).Sends allowed :=
  (isSilent_pure value).sends

theorem isSilent_halt (ending : Ending) : (halt ending : Session α).IsSilent :=
  isSilent_of_exchanges fun _ => rfl

theorem isSilent_exit (code : Nat) : (exit code : Session α).IsSilent := isSilent_halt _

theorem isSilent_readFile (path : String) : (readFile path).IsSilent :=
  isSilent_of_exchanges fun _ => rfl

theorem isSilent_probeFile (path : String) : (probeFile path).IsSilent :=
  isSilent_of_exchanges fun _ => rfl

theorem isSilent_print (text : String) : (print text).IsSilent :=
  isSilent_of_exchanges fun _ => rfl

theorem isSilent_report (line : String) : (report line).IsSilent :=
  isSilent_of_exchanges fun _ => rfl

/-- What follows a session is sent after it, and only where it gives a value. -/
theorem Exchanges.exists_run_bind {account : List (Http.Request × Http.Answer) → Prop}
    {first : Session α} (next : α → Session β) (exchanges : first.Exchanges account)
    (world : World) :
    ∃ before, account before ∧
      ((world.run (first >>= next)).2.exchanges = world.exchanges ++ before ∨
        ∃ value after, world.run first = (.ok value, after) ∧
          after.exchanges = world.exchanges ++ before ∧
          world.run (first >>= next) = after.run (next value)) := by
  obtain ⟨before, isBefore, isAccount⟩ := exchanges world
  refine ⟨before, isAccount, ?_⟩
  rw [World.run_bind]
  cases ran : world.run first with
  | mk result after =>
      rw [ran] at isBefore
      cases result with
      | error ending =>
          exact Or.inl isBefore
      | ok value =>
          exact Or.inr ⟨value, after, rfl, isBefore, rfl⟩

theorem Sends.bind_of_given {first : Session α} {next : α → Session β}
    (sends : first.Sends allowed)
    (others : ∀ (world after : World) (value : α), world.run first = (.ok value, after) →
      (next value).Sends allowed) : (first >>= next).Sends allowed := by
  intro world
  obtain ⟨before, all, halted | ⟨value, after, ran, isBefore, goesOn⟩⟩ :=
    Exchanges.exists_run_bind next sends world
  · exact ⟨before, halted, all⟩
  · obtain ⟨later, isLater, allLater⟩ := others world after value ran after
    refine ⟨before ++ later, ?_, List.forall_mem_append.2 ⟨all, allLater⟩⟩
    rw [goesOn, isLater, isBefore, List.append_assoc]

theorem Sends.bind {first : Session α} {next : α → Session β} (sends : first.Sends allowed)
    (others : ∀ value, (next value).Sends allowed) : (first >>= next).Sends allowed :=
  sends.bind_of_given fun _ _ value _ => others value

theorem IsSilent.bind {first : Session α} {next : α → Session β} (silent : first.IsSilent)
    (others : ∀ value, (next value).IsSilent) : (first >>= next).IsSilent :=
  Sends.bind silent others

/-- A session that sends nothing more leaves the exchanges as they are. -/
theorem Exchanges.bind_silent {account : List (Http.Request × Http.Answer) → Prop}
    {first : Session α} {next : α → Session β} (exchanges : first.Exchanges account)
    (silent : ∀ value, (next value).IsSilent) : (first >>= next).Exchanges account := by
  intro world
  obtain ⟨before, isAccount, halted | ⟨value, after, _, isBefore, goesOn⟩⟩ :=
    exchanges.exists_run_bind next world
  · exact ⟨before, halted, isAccount⟩
  · refine ⟨before, ?_, isAccount⟩
    rw [goesOn, (silent value).exchanges_eq rfl, isBefore]

theorem isSilent_forM {items : List α} {body : α → Session PUnit}
    (silent : ∀ item, (body item).IsSilent) : (items.forM body).IsSilent := by
  induction items with
  | nil =>
      exact isSilent_pure _
  | cons item items inductionHypothesis =>
      exact (silent item).bind fun _ => inductionHypothesis

end Session

/-- A session leaves the files as they are. -/
@[simp]
theorem World.files_run {α : Type} (world : World) (session : Session α) :
    (world.run session).2.files = world.files := by
  induction session generalizing world with
  | done value =>
      rfl
  | halt ending =>
      rfl
  | act action continuation inductionHypothesis =>
      refine (inductionHypothesis (world.perform action).1 (world.perform action).2).trans ?_
      cases action <;> rfl

/-! ## What a request leaves -/

namespace Http

/-- All that was asked got something. -/
def OnlyLooked (asked : List (Request × Answer)) : Prop :=
  ∀ exchange ∈ asked, exchange.1.method = .get

/-- Answers can lead from a request to others that ask for the same or get something. -/
def Request.LeadsTo (request other : Request) : Prop :=
  other.method = .get ∨ other.method = request.method ∧ other.body = request.body

/-- The request is exchanged, and then there are only those that the answers lead to. -/
inductive Request.Follows (request : Request) : List (Request × Answer) → Prop
  | exchanged {answer : Answer} {redirected : List (Request × Answer)} :
      (request.Stays answer → redirected = []) →
      (∀ exchange ∈ redirected, request.LeadsTo exchange.1) →
      Follows request ((request, answer) :: redirected)

/-- What is exchanged for a request: nothing if its URL cannot be asked, and else what follows it as
it is sent. -/
inductive Request.Leaves (request : Request) : List (Request × Answer) → Prop
  | unsent : isAskable request.sent.url = false → Leaves request []
  | sent {asked : List (Request × Answer)} :
      isAskable request.sent.url = true → request.sent.Follows asked → Leaves request asked

theorem Request.LeadsTo.trans {request other last : Request} (leads : request.LeadsTo other)
    (further : other.LeadsTo last) : request.LeadsTo last := by
  rcases further with isGet | ⟨sameMethod, sameBody⟩
  · exact Or.inl isGet
  · unfold LeadsTo at leads ⊢
    rw [sameMethod, sameBody]
    exact leads

theorem Request.leadsTo_of_redirect? {request next : Request} {reply : Reply}
    (redirected : redirect? request reply = some next) : request.LeadsTo next := by
  unfold redirect? at redirected
  split at redirected
  · split at redirected
    · cases redirected
    · split at redirected
      · cases redirected
        exact Or.inl rfl
      · split at redirected
        · cases redirected
          exact Or.inr ⟨rfl, rfl⟩
        · cases redirected
  · cases redirected

theorem Request.Leaves.leadsTo {request : Request} {asked : List (Request × Answer)}
    (leaves : request.Leaves asked) : ∀ exchange ∈ asked, request.LeadsTo exchange.1 := by
  cases leaves with
  | unsent notAskable =>
      exact fun _ member => absurd member List.not_mem_nil
  | sent askable follows =>
      cases follows with
      | exchanged ends leadTo =>
          exact List.forall_mem_cons.2 ⟨Or.inr ⟨rfl, rfl⟩, leadTo⟩

theorem Request.follows_alone (request : Request) (answer : Answer) :
    request.Follows [(request, answer)] :=
  .exchanged (fun _ => rfl) fun _ member => absurd member List.not_mem_nil

/-- What follows a request that an answer leads to also follows the one that was answered. -/
theorem Request.Follows.redirected {request next : Request} {reply : Reply}
    {asked : List (Request × Answer)} (redirects : redirect? request reply = some next)
    (follows : next.Follows asked) : request.Follows ((request, .reply reply) :: asked) := by
  have leads := leadsTo_of_redirect? redirects
  cases follows with
  | exchanged ends leadTo =>
      constructor
      · intro stays
        cases redirects.symm.trans (stays reply rfl)
      · refine List.forall_mem_cons.2 ⟨leads, ?_⟩
        exact fun exchange member => leads.trans (leadTo exchange member)

/-- What is exchanged for a request on the way to what it comes to follows it. -/
theorem Comes.follows {remaining : Nat} {request : Request} {asked : List (Request × Answer)}
    {outcome : Except Failure (Url × Reply)} (comes : Comes remaining request asked outcome) :
    request.Follows asked := by
  induction comes with
  | unreachable remaining request =>
      exact request.follows_alone .unreachable
  | dropped remaining request =>
      exact request.follows_alone .dropped
  | @replied remaining request reply stays =>
      exact request.follows_alone (.reply reply)
  | @exhausted request next reply redirects =>
      exact request.follows_alone (.reply reply)
  | @elsewhere remaining request next reply redirects notAskable =>
      exact request.follows_alone (.reply reply)
  | redirected redirects isAskable comes inductionHypothesis =>
      exact inductionHypothesis.redirected redirects

theorem Request.Yields.leaves {request : Request} {asked : List (Request × Answer)}
    {outcome : Except Failure (Url × Reply)} (yields : request.Yields asked outcome) :
    request.Leaves asked := by
  cases yields with
  | unsent notAskable =>
      exact .unsent notAskable
  | sent askable comes =>
      exact .sent askable comes.follows

/-- What is exchanged for a request, and nothing where there is only a failure to make one. -/
def LeavesIfAny (asked : List (Request × Answer)) : Except Failure Request → Prop
  | .error _ => asked = []
  | .ok request => request.Leaves asked

/-- The session answers in the end, and leaves what the request leaves. -/
def Request.IsSentBy {α : Type} (request : Request) (session : Session α) : Prop :=
  ∀ world : World, ∃ value asked, world.run session =
    (.ok value, { world with exchanges := world.exchanges ++ asked }) ∧ request.Leaves asked

section IsSentBy

variable {α β : Type} {request : Request} {session : Session α}

/-- What is made of the answer changes nothing of what was sent. -/
theorem Request.IsSentBy.bind {next : α → Session β} (sent : request.IsSentBy session)
    (concludes : ∀ value, ∃ result, next value = pure result) :
    request.IsSentBy (session >>= next) := by
  intro world
  obtain ⟨value, asked, run, leaves⟩ := sent world
  obtain ⟨result, isPure⟩ := concludes value
  refine ⟨result, asked, ?_, leaves⟩
  rw [World.run_bind_of_ok run, isPure]
  rfl

theorem Request.IsSentBy.exchanges (sent : request.IsSentBy session) :
    session.Exchanges request.Leaves := by
  intro world
  obtain ⟨value, asked, run, leaves⟩ := sent world
  exact ⟨asked, by rw [run], leaves⟩

theorem Request.IsSentBy.sends (sent : request.IsSentBy session) :
    session.Sends request.LeadsTo := by
  intro world
  obtain ⟨asked, exchanges, leaves⟩ := sent.exchanges world
  exact ⟨asked, exchanges, leaves.leadsTo⟩

theorem isSentBy_ask (request : Request) : request.IsSentBy (ask request) := by
  have sent : request.IsSentBy (send request) := by
    intro world
    obtain ⟨outcome, asked, run, yields⟩ := exists_yields world request
    exact ⟨outcome, asked, run, yields.leaves⟩
  refine sent.bind fun result => ?_
  cases result with
  | error failure =>
      exact ⟨_, rfl⟩
  | ok found =>
      exact ⟨_, rfl⟩

theorem isSentBy_order (request : Request) : request.IsSentBy (order request) := by
  refine (isSentBy_ask request).bind fun result => ?_
  cases result with
  | error failure =>
      exact ⟨_, rfl⟩
  | ok reply =>
      exact ⟨_, rfl⟩

theorem isSentBy_askFor (read? : String → Option α) (request : Request) :
    request.IsSentBy (askFor read? request) := by
  refine (isSentBy_ask request).bind fun result => ?_
  cases result with
  | error failure =>
      exact ⟨_, rfl⟩
  | ok reply =>
      cases found : reply.text?.bind read? with
      | none =>
          simp only [found]
          exact ⟨_, rfl⟩
      | some value =>
          simp only [found]
          exact ⟨_, rfl⟩

/-- A request that gets something leads to others that do. -/
theorem looks_askFor (read? : String → Option α) (url : Url) (body : Option Json) :
    (askFor read? ⟨.get, url, body⟩).Looks := by
  refine (isSentBy_askFor read? _).sends.mono fun sent leads => ?_
  rcases leads with isGet | ⟨isGet, _⟩
  · exact isGet
  · exact isGet

end IsSentBy

end Http

end ModelHub
