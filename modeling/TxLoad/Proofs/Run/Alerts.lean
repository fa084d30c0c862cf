import TxLoad.Proofs.Run.Raising

/-!
# What is raised is said

Every fatal failure is announced in the log when it is raised, whether it is the first or not, and nothing else is
announced so. What a run raised can therefore be read in its log.

- `Log.Entry.alert?` reads an announcement, `Run.alerts` those in the log of a run;
- `Run.announces_step`: a step announces what its action raises, one lemma for every kind of step;
- **the alerts of a run are what was raised, in order** (`Run.alerts_after`).
-/

namespace TxLoad

/-- The fatal failure that an entry announces, in words. -/
def Log.Entry.alert? (e : Log.Entry) : Option String :=
  if e.message = "Fatal condition, aborting run" ∨ e.message = "Fatal condition already raised" then
    (e.fields.find? (·.1 = "error")).map (·.2.show)
  else none

namespace Dispatch

/-! ## Entries -/

theorem Fatal.alert?_raiseLog (f : Fatal) (e : Failure) : (f.raiseLog e).alert? = some e.message := by
  unfold raiseLog
  split <;> simp [Log.Entry.alert?, Log.Value.show]

/-- A verdict announces a failure if it comes too late. -/
theorem Pending.alert?_verdictLog (p : Pending) (v : Verdict) (patience : Option Nat) (rpc : String) (now balance : Nat)
    (context : Context) : (p.verdictLog v patience rpc now balance context).alert? =
      match v with
      | .expired => some (p.timeout patience).message
      | _ => none := by
  cases v with
  | settled => simp [verdictLog, settledLog, Log.Entry.alert?]
  | lost => simp [verdictLog, lostLog, Log.Entry.alert?]
  | expired => exact context.fatal.alert?_raiseLog _

namespace Run

variable {s : Setup} {r r₁ : Run} {i : Nat} {st : Stage}

/-- The announcements in the log of a run, in order. -/
def alerts (r : Run) : List String := r.log.toList.filterMap Log.Entry.alert?

theorem alerts_say (e : Log.Entry) : (r.say e).alerts = r.alerts ++ e.alert?.toList := by
  rw [alerts, say, Array.toList_push, List.filterMap_append, alerts]
  cases h : e.alert? <;> simp [h]

theorem alerts_sayAll {es : List Log.Entry} (quiet : ∀ e ∈ es, e.alert? = none) : (r.sayAll es).alerts = r.alerts := by
  have none : es.filterMap Log.Entry.alert? = [] := List.filterMap_eq_nil_iff.2 quiet
  simp [alerts, sayAll, none]

theorem alert?_warnings (q : Fee.Quote) (rpc : String) : ∀ e ∈ q.warnings rpc, e.alert? = none := by
  unfold Fee.Quote.warnings
  split <;> simp [Log.Entry.alert?]

theorem alert?_payloadLog (scenario : Scenario) (index : Nat) : ∀ e ∈ scenario.payloadLog index, e.alert? = none := by
  cases scenario <;> simp [Scenario.payloadLog, Log.Entry.alert?]

/-- A dispatch that is given up announces that the run has stalled, if it has. -/
theorem alerts_abandon (rpc : Option String) (e : Failure) : (r.abandon s i rpc e).alerts =
    r.alerts ++ ((stalled? s.options (r.context.stats.streak + 1) e).map Failure.message).toList := by
  have quiet : (r.say (abandonLog i rpc (r.context.stats.streak + 1) e)).alerts = r.alerts := by
    rw [alerts_say]
    simp [abandonLog, Log.Entry.alert?]
  cases stalls : stalled? s.options (r.context.stats.streak + 1) e with
  | none =>
    simp only [abandon, Stats.fail, stalls]
    exact quiet.trans (List.append_nil _).symm
  | some fatal =>
    simp only [abandon, Stats.fail, stalls]
    have said := (r.say (abandonLog i rpc (r.context.stats.streak + 1) e)).alerts_say (r.context.fatal.raiseLog fatal)
    rw [quiet, Fatal.alert?_raiseLog] at said
    exact said

/-! ## Steps -/

/-- The way from `r` to `r'` announces what an action raises. -/
def Announces (s : Setup) (r r' : Run) (d : Option Action) : Prop :=
  r'.alerts = r.alerts ++ ((d.bind (Action.raise? s.options r.context.stats.streak)).map Failure.message).toList

theorem announces_nothing {r' : Run} {d : Option Action} (same : r'.alerts = r.alerts)
    (calm : d.bind (Action.raise? s.options r.context.stats.streak) = none) : Announces s r r' d := by
  rw [Announces, same, calm]
  exact (List.append_nil _).symm

theorem announces_rest (i : Nat) : Announces s r r (r.actionOf? r i) := by
  refine announces_nothing rfl ?_
  unfold actionOf?
  cases r.jobs[i]? <;> simp

/-- A run with the dispatches, the counts and the announcements of another. -/
structure Echoes (r₁ r : Run) : Prop where
  jobs : r₁.jobs = r.jobs
  context : r₁.context = r.context
  alerts : r₁.alerts = r.alerts

theorem echoes_self : r.Echoes r := ⟨rfl, rfl, rfl⟩

theorem Echoes.sayAll (echo : r₁.Echoes r) {es : List Log.Entry} (quiet : ∀ e ∈ es, e.alert? = none) :
    (r₁.sayAll es).Echoes r := ⟨echo.jobs, echo.context, (alerts_sayAll quiet).trans echo.alerts⟩

section Dispatches

variable (here : r.jobs[i]? = some st) (live : st.isDispatching)
include here live

theorem announces_abandon (echo : r₁.Echoes r) (rpc : Option String) (e : Failure) :
    Announces s r (r₁.abandon s i rpc e) (r.actionOf? (r₁.abandon s i rpc e) i) := by
  rw [actionOf?_eq here (by rw [abandon_eq, echo.jobs]), Announces, alerts_abandon, echo.alerts, echo.context]
  cases st <;> first | rfl | cases live

/-- Building the transaction of a dispatch announces a failure if there is one. -/
theorem announces_assemble (echo : r₁.Echoes r) (endpoint worker : Nat) (quote : Fee.Quote) :
    Announces s r (r₁.assemble s i endpoint worker quote) (r.actionOf? (r₁.assemble s i endpoint worker quote) i) := by
  have said := echo.sayAll (alert?_payloadLog s.scenario i)
  cases sender : r₁.registry.workers[worker]? with
  | none =>
    rw [assemble_of_absent sender]
    exact announces_abandon here live echo _ _
  | some account =>
    cases load : s.scenario.payload i account.address (s.draws i).value with
    | error e =>
      rw [assemble_of_no_payload sender load]
      exact announces_abandon here live said _ _
    | ok payload =>
      cases signed : account.assemble payload quote with
      | mk account' result =>
        cases result with
        | error e =>
          rw [assemble_of_error sender load signed]
          refine announces_abandon here live ?_ _ _
          exact ⟨said.jobs, said.context, said.alerts⟩
        | ok t =>
          rw [assemble_of_ok sender load signed, actionOf?_eq here (by rw [echo.jobs])]
          refine announces_nothing said.alerts ?_
          cases st <;> rfl

theorem announces_price (echo : r₁.Echoes r) (endpoint worker : Nat) (quote : Fee.Quote) :
    Announces s r (r₁.price s i endpoint worker quote) (r.actionOf? (r₁.price s i endpoint worker quote) i) :=
  announces_assemble here live (echo.sayAll (alert?_warnings _ _)) endpoint worker quote.clamped

end Dispatches

/-- The first step of a dispatch. -/
theorem announces_begin (i : Nat) : Announces s r (r.begin s i) (r.actionOf? (r.begin s i) i) := by
  by_cases here : r.jobs[i]? = some .admitted
  · cases selected : r.pool.select s.options.endpointSelection i (s.draws i).endpoint with
    | mk answer pool =>
      cases answer with
      | error e =>
        rw [begin_of_unhealthy here selected]
        refine announces_abandon here rfl ?_ none e
        exact ⟨rfl, rfl, rfl⟩
      | ok endpoint =>
        cases picked : r.registry.pick s.options.walletSelection i (s.draws i).wallet with
        | mk worker registry =>
          cases fees : s.overrides.quote? with
          | some quote =>
            rw [begin_of_fees here selected picked fees]
            refine announces_price here rfl ?_ endpoint worker quote
            exact ⟨rfl, rfl, rfl⟩
          | none =>
            rw [begin_of_no_fees here selected picked fees, actionOf?_eq here rfl]
            exact announces_nothing rfl rfl
  · rw [begin_of_other here]
    exact announces_rest i

/-- An answer about fees. -/
theorem announces_quoted (i : Nat) (answer : Except Failure (Nat × Nat)) :
    Announces s r (r.quoted s i answer) (r.actionOf? (r.quoted s i answer) i) := by
  unfold quoted
  split
  · next here =>
    cases answer with
    | error e => exact announces_abandon here rfl echoes_self _ _
    | ok fees => exact announces_price here rfl echoes_self _ _ _
  · exact announces_rest i

/-- An answer to a submission. -/
theorem announces_sent (i : Nat) (answer : Except Failure Unit) :
    Announces s r (r.sent s i answer) (r.actionOf? (r.sent s i answer) i) := by
  unfold sent
  split
  · next here =>
    cases answer with
    | error e => exact announces_abandon here rfl echoes_self _ _
    | ok =>
      rw [actionOf?_eq here rfl]
      have quiet (p : Pending) (rpc : String) : (sentLog p rpc).alert? = none := by simp [sentLog, Log.Entry.alert?]
      refine announces_nothing ((alerts_say _).trans ?_) rfl
      rw [quiet]
      exact List.append_nil _
  · exact announces_rest i

/-- The start of a watch. -/
theorem announces_watch (i : Nat) : Announces s r (r.watch s i) (r.actionOf? (r.watch s i) i) := by
  unfold watch
  split
  · next here =>
    split
    · rw [actionOf?_eq here rfl]
      exact announces_nothing rfl rfl
    · rw [actionOf?_eq here rfl]
      exact announces_nothing rfl rfl
  · exact announces_rest i

/-- A verdict announces a failure if it comes too late. -/
theorem announces_close {p : Pending} (here : r.jobs[i]? = some (.watching p)) (v : Verdict) :
    Announces s r (r.close s i p v) (r.actionOf? (r.close s i p v) i) := by
  rw [actionOf?_eq here rfl, Announces]
  refine (alerts_say _).trans ?_
  rw [Pending.alert?_verdictLog]
  cases v <;> rfl

/-- An answer to a watch. -/
theorem announces_answered (i : Nat) (answer : Except Failure Confirmation) :
    Announces s r (r.answered s i answer) (r.actionOf? (r.answered s i answer) i) := by
  unfold answered
  split
  · next here =>
    split
    · exact announces_close here _
    · exact announces_rest i
  · exact announces_rest i

/-- A deadline. -/
theorem announces_expired (i : Nat) : Announces s r (r.expired s i) (r.actionOf? (r.expired s i) i) := by
  unfold expired
  split
  · next here =>
    split
    · split
      · exact announces_close here _
      · exact announces_rest i
    · exact announces_rest i
  · exact announces_rest i

/-- The admission loop announces nothing. -/
theorem alerts_resume : (r.resume s).alerts = r.alerts := by
  unfold resume
  split
  · rfl
  · rfl
  · unfold advance
    split
    · split <;> rfl
    · split <;> rfl
    · split <;> rfl
    · split
      · rfl
      · refine (alerts_say _).trans ?_
        simp [sendingDoneLog, Log.Entry.alert?]
    · split
      · rfl
      · refine (alerts_say _).trans ?_
        simp [finishedLog, Log.Entry.alert?]
    · rfl

/-- **Every step announces what its action raises.** -/
theorem announces_step (s : Setup) (r : Run) (e : Event) : Announces s r (r.step s e) (r.action? s e) := by
  cases e with
  | resume =>
    refine announces_nothing alerts_resume ?_
    simp only [action?, Event.job?]
    split <;> rfl
  | begin i => exact announces_begin i
  | quoted i answer => exact announces_quoted i answer
  | sent i answer => exact announces_sent i answer
  | watch i => exact announces_watch i
  | answered i answer => exact announces_answered i answer
  | expired i => exact announces_expired i
  | refreshed checks =>
    refine announces_nothing rfl ?_
    simp [action?, Event.job?, step]
  | pass time =>
    refine announces_nothing ?_ ?_
    · simp only [step]
      split <;> rfl
    · simp only [action?, Event.job?]
      split <;> rfl

end Run

/-! ## Runs -/

/-- The failures in a row after a move are those of its action. -/
theorem Move.streak {s : Setup} {r r' : Run} {d : Option Action} (m : Move s r d r') :
    r'.context.stats.streak = streakFrom r.context.stats.streak d.toList := by
  cases m with
  | fail => simp [Stats.fail, streakFrom, Action.streak]
  | close => simp [streakFrom, Action.streak]
  | _ => rfl

theorem raisesFrom_toList (o : Options) (n : Nat) (d : Option Action) :
    raisesFrom o n d.toList = (d.bind (Action.raise? o n)).toList := by
  cases d with
  | none => rfl
  | some d => exact List.append_nil _

/-- **The alerts of a run are what was raised**, in order. -/
theorem Run.alerts_after (s : Setup) (pool : Pool) (registry : Registry) (now : Nat) (events : List Event) :
    ((Run.start s pool registry now).after s events).alerts =
      (raises s.options ((Run.start s pool registry now).trace s events)).map Failure.message := by
  have along : ∀ (events : List Event) (r : Run), (r.after s events).alerts =
      r.alerts ++ (raisesFrom s.options r.context.stats.streak (r.trace s events)).map Failure.message := by
    intro events
    induction events with
    | nil => intro r; simp [after, trace, raisesFrom]
    | cons e events ih =>
      intro r
      have now : (r.step s e).alerts = _ := announces_step s r e
      have later := ih (r.step s e)
      rw [(move_step s r e).streak, now] at later
      rw [trace, raisesFrom_append, List.map_append, raisesFrom_toList, ← List.append_assoc, ← Option.toList_map]
      exact later
  have start : (Run.start s pool registry now).alerts = [] := by
    simp [Run.start, alerts, startLog, Log.Entry.alert?]
  rw [along, start]
  rfl

end Dispatch

end TxLoad
