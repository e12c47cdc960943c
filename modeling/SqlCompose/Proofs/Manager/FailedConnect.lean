import SqlCompose.Proofs.Manager.History

/-!
# Connects that fail

`Answered` says once how a manager without a connection answers a connect: the checks in their
order, and what each of them reaches. A connect that fails leaves the manager as it was and at most
one more event in the log.

That it makes no difference later is a comparison of two runs, one behind the failed connect and one
without it. An executor is known by its place in the log, so behind the failed connect the
executors that are handed out later have moved; apart from that the runs go hand in hand. `Apart`
relates their logs, `HandInHand` their computations and `Alongside` their states; `alongside_step`
is one call in both runs and `alongside_steps` all of them.
-/

namespace SqlCompose.Manager

/-! ## The checks -/

/-- How a manager without a connection answers a connect under a name, behind all that happened: the
outcome and what is reached. -/
inductive Answered (config : DatabaseConfig) (w : Network) (name : String) (log : Log) :
    Except Error Response → Log → Prop
  | unknown (hname : config.connections.get? name = none) :
    Answered config w name log (.error (.unknownConnection name)) []
  | unsupported {c : ConnectionConfig} (hname : config.connections.get? name = some c)
    (hdriver : c.driver ≠ "mysql" ∧ c.driver ≠ "sqlsrv") :
    Answered config w name log (.error (.unsupportedDriver c.driver)) []
  | maintenance {c : ConnectionConfig} (hname : config.connections.get? name = some c)
    (hdriver : c.driver = "mysql" ∨ c.driver = "sqlsrv") (hmaintenance : c.maintenanceMode = true) :
    Answered config w name log (.error (.maintenanceMode name)) []
  /-- The error of the connector is the outcome as it is. -/
  | failed {c : ConnectionConfig} {dsn : String} {e : Error}
    (hname : config.connections.get? name = some c)
    (hdriver : c.driver = "mysql" ∨ c.driver = "sqlsrv") (hmaintenance : c.maintenanceMode = false)
    (hdsn : c.dsn = .ok dsn) (hanswer : w log c dsn = .error e) :
    Answered config w name log (.error e) [.connect c dsn (.error e)]
  | opened {c : ConnectionConfig} {dsn : String} {o : Database}
    (hname : config.connections.get? name = some c)
    (hdriver : c.driver = "mysql" ∨ c.driver = "sqlsrv") (hmaintenance : c.maintenanceMode = false)
    (hdsn : c.dsn = .ok dsn) (hanswer : w log c dsn = .ok o) :
    Answered config w name log (.ok .done) [.connect c dsn (.ok o)]

theorem unsupported_of_parse {c : ConnectionConfig} {e : Error} (h : c.parseDriver = .error e) :
    (c.driver ≠ "mysql" ∧ c.driver ≠ "sqlsrv") ∧ e = .unsupportedDriver c.driver := by
  unfold ConnectionConfig.parseDriver Driver.parse at h
  split at h
  · cases h
  · next hmysql =>
    split at h
    · cases h
    · next hsqlsrv => exact ⟨⟨hmysql, hsqlsrv⟩, (Except.error.inj h).symm⟩

variable {s : State} {a : Action} {w : Network} {name : String}

/-- A name is refused by the first check that it does not pass. -/
theorem answered_refused {e : Error} (log : Log) (h : s.manager.target name = .error e) :
    Answered s.manager.config w name log (.error e) [] := by
  unfold target at h
  cases hname : s.manager.config.connections.get? name with
  | none =>
    unfold DatabaseConfig.connection at h
    rw [hname] at h
    cases h
    exact .unknown hname
  | some c =>
    rw [connection_eq_ok_iff.2 hname, ok_bind_eq] at h
    cases hparse : c.parseDriver with
    | error e' =>
      obtain ⟨hdriver, rfl⟩ := unsupported_of_parse hparse
      rw [hparse] at h
      cases h
      exact .unsupported hname hdriver
    | ok driver =>
      rw [hparse, ok_bind_eq] at h
      cases hmaintenance : c.maintenanceMode with
      | false =>
        rw [hmaintenance] at h
        cases h
      | true =>
        rw [hmaintenance] at h
        cases h
        exact .maintenance hname (supported_of_parse hparse) hmaintenance

/-- A connect without an open connection is answered; if it fails, the manager stays. -/
theorem Happens.answered {outcome : Except Error Response} {s' : State}
    (hhappens : Happens s a outcome s') (ha : a.target? s.manager.config = some (w, name))
    (hc : s.manager.connection = none) :
    ∃ reached, Answered s.manager.config w name s.log outcome reached ∧
      s'.log = s.log ++ reached ∧ ∀ e, outcome = .error e → s'.manager = s.manager := by
  cases hhappens with
  | kept _ hopen | table hopen | schema hopen | queried hopen | executed hopen =>
    rw [hc] at hopen
    cases hopen
  | disconnected => cases ha
  | unavailable hneeds => exact absurd hneeds (Action.connects_of_target ha).2
  | refused ha' _ ht =>
    obtain ⟨rfl, rfl⟩ := Prod.mk.inj (Option.some.inj (ha.symm.trans ha'))
    exact ⟨[], answered_refused s.log ht, by simp, fun _ _ => rfl⟩
  | failed ha' _ ht hw =>
    obtain ⟨rfl, rfl⟩ := Prod.mk.inj (Option.some.inj (ha.symm.trans ha'))
    obtain ⟨hname, hdriver, hmaintenance, hdsn⟩ := settings_of_target ht
    exact ⟨_, .failed hname hdriver hmaintenance hdsn hw, rfl, fun _ _ => rfl⟩
  | opened ha' _ ht hw =>
    obtain ⟨rfl, rfl⟩ := Prod.mk.inj (Option.some.inj (ha.symm.trans ha'))
    obtain ⟨hname, hdriver, hmaintenance, hdsn⟩ := settings_of_target ht
    exact ⟨_, .opened hname hdriver hmaintenance hdsn hw, rfl, nofun⟩

/-! ## Places in the log -/

/-- No call went to an executor that is yet to be handed out. -/
def Settled (log : Log) : Prop := ∀ place, log.length ≤ place → callsTo place log = []

theorem callsTo_append (place : Nat) (log log' : Log) :
    callsTo place (log ++ log') = callsTo place log ++ callsTo place log' :=
  List.filterMap_append

theorem callsTo_calls {place other : Nat} (h : place ≠ other) (calls : List IoCall) :
    callsTo place (calls.map (.call other)) = [] := by
  induction calls with
  | nil => rfl
  | cons c calls ih =>
    unfold callsTo at ih ⊢
    rw [List.map_cons, List.filterMap_cons_none (by simp [Ne.symm h]), ih]

theorem Settled.connect {log : Log} (h : Settled log) (c : ConnectionConfig) (dsn : String)
    (answer : Except Error Database) : Settled (log ++ [.connect c dsn answer]) := by
  intro place hplace
  rw [List.length_append] at hplace
  rw [callsTo_append, h place (by omega)]
  rfl

theorem Settled.calls {log : Log} (h : Settled log) {place : Nat} (hplace : place < log.length)
    (calls : List IoCall) : Settled (log ++ calls.map (.call place)) := by
  intro other hother
  rw [List.length_append] at hother
  rw [callsTo_append, h other (by omega), callsTo_calls (by omega)]
  rfl

/-- The executor of an open connection was handed out at a place of the log, and nothing was called
ahead of its place. -/
structure Placed (s : State) : Prop where
  settled : Settled s.log
  connection : ∀ name e, s.manager.connection = some (name, e) →
    ∃ place o, place < s.log.length ∧ e = handle place o

/-- Calls through an open connection. -/
theorem Placed.use (h : Placed s) {e : Executor Logged}
    (hc : s.manager.connection = some (name, e)) {log : Log}
    (hlog : ∀ place o, e = handle place o → ∃ calls : List IoCall,
      log = s.log ++ calls.map (.call place)) : Placed ⟨s.manager, log⟩ := by
  obtain ⟨place, o, hplace, he⟩ := h.connection name e hc
  obtain ⟨calls, rfl⟩ := hlog place o he
  refine ⟨h.settled.calls hplace calls, fun name' e' hc' => ?_⟩
  obtain ⟨place', o', hplace', he'⟩ := h.connection name' e' hc'
  exact ⟨place', o', by rw [List.length_append]; omega, he'⟩

theorem Placed.happens {outcome : Except Error Response} {s' : State} (h : Placed s)
    (hhappens : Happens s a outcome s') : Placed s' := by
  cases hhappens with
  | kept | refused | unavailable | table | schema => exact h
  | failed _ hc =>
    refine ⟨h.settled.connect _ _ _, fun name e hopen => ?_⟩
    rw [hc] at hopen
    cases hopen
  | @opened _ _ _ _ _ o =>
    refine ⟨h.settled.connect _ _ _, fun name e hopen => ?_⟩
    cases hopen
    exact ⟨s.log.length, o, by simp, rfl⟩
  | disconnected => exact ⟨h.settled, nofun⟩
  | queried hc hr => exact h.use hc (calls_of_fetch hr)
  | executed hc hr => exact h.use hc (calls_of_execute hr)

theorem Placed.reach (as : List Action) : ∀ {s : State}, Placed s → Placed (reach s as) := by
  induction as with
  | nil => exact id
  | cons a as ih => exact fun h => ih (h.happens (happens_step _ a))

theorem placed_start (config : DatabaseConfig) : Placed (start config) where
  settled _ _ := rfl
  connection := nofun

/-! ## Two logs -/

/-- The event with the executors it is about handed out `n` places later. -/
def Event.later (n : Nat) : Event → Event
  | .connect c dsn answer => .connect c dsn answer
  | .call place c => .call (place + n) c

/-- The event with the executors it is about handed out `n` places sooner. -/
def Event.sooner (n : Nat) : Event → Event
  | .connect c dsn answer => .connect c dsn answer
  | .call place c => .call (place - n) c

theorem Event.sooner_later (n : Nat) (e : Event) : (e.later n).sooner n = e := by
  cases e with
  | connect => rfl
  | call place c => exact congrArg (Event.call · c) (Nat.add_sub_cancel place n)

/-- The first log has the events `extra` behind `base`, which the second log lacks, and is the
second log otherwise. -/
def Apart (base extra log' log : Log) : Prop :=
  ∃ es, log = base ++ es ∧ log' = base ++ extra ++ es.map (Event.later extra.length)

/-- What a network answers if the `n` events from place `k` on had never been. -/
def Network.without (k n : Nat) (w : Network) : Network := fun log =>
  w (log.take k ++ (log.drop (k + n)).map (Event.sooner n))

variable {base extra log log' : Log}

theorem Apart.refl (base extra : Log) : Apart base extra (base ++ extra) base := ⟨[], by simp⟩

theorem Apart.append (h : Apart base extra log' log) (es : Log) :
    Apart base extra (log' ++ es.map (Event.later extra.length)) (log ++ es) := by
  obtain ⟨es', rfl, rfl⟩ := h
  exact ⟨es' ++ es, by simp⟩

theorem Apart.length (h : Apart base extra log' log) :
    base.length ≤ log.length ∧ log'.length = log.length + extra.length := by
  obtain ⟨es, rfl, rfl⟩ := h
  constructor <;> simp only [List.length_append, List.length_map] <;> omega

/-- The network does not see what the second log lacks. -/
theorem Apart.without (h : Apart base extra log' log) (w : Network) :
    w.without base.length extra.length log' = w log := by
  obtain ⟨es, rfl, rfl⟩ := h
  have hback : (es.map (Event.later extra.length)).map (Event.sooner extra.length) = es := by
    rw [List.map_map]
    exact (List.map_congr_left fun e _ => Event.sooner_later _ e).trans (List.map_id _)
  have hdrop : (base ++ extra ++ es.map (Event.later extra.length)).drop
      (base.length + extra.length) = es.map (Event.later extra.length) :=
    List.drop_left' List.length_append
  unfold Network.without
  rw [hdrop, hback, List.append_assoc, List.take_left' rfl]

theorem callsTo_later (place n : Nat) (es : Log) :
    callsTo (place + n) (es.map (Event.later n)) = callsTo place es := by
  unfold callsTo
  rw [List.filterMap_map]
  congr 1
  funext e
  cases e with
  | connect => rfl
  | call => simp [Event.later]

/-- An executor that was handed out behind `base` has had the same calls in both logs. -/
theorem Apart.callsTo (h : Apart base extra log' log) (hbase : Settled base)
    (hextra : Settled (base ++ extra)) {place : Nat} (hplace : base.length ≤ place) :
    callsTo (place + extra.length) log' = callsTo place log := by
  obtain ⟨es, rfl, rfl⟩ := h
  -- All calls to the executor stand behind what the logs have in common.
  rw [callsTo_append (place + extra.length) (base ++ extra), callsTo_append place base,
    callsTo_later, hbase place hplace,
    hextra (place + extra.length) (by rw [List.length_append]; omega)]

/-! ## Two runs -/

/-- Two executors of one database: one handed out at place `k` or behind it, the other `n` places
later. -/
def Twins (k n : Nat) (e' e : Executor Logged) : Prop :=
  ∃ place o, k ≤ place ∧ e = handle place o ∧ e' = handle (place + n) o

/-- The same outcome, up to the places of executors in it. -/
inductive Alike (k n : Nat) : Except Error Response → Except Error Response → Prop
  | error (e : Error) : Alike k n (.error e) (.error e)
  | done : Alike k n (.ok .done) (.ok .done)
  | closed (b : Bool) : Alike k n (.ok (.closed b)) (.ok (.closed b))
  | table {e' e : Executor Logged} (h : Twins k n e' e) (t : String) :
    Alike k n (.ok (.table (.on e' t))) (.ok (.table (.on e t)))
  | schema {e' e : Executor Logged} (h : Twins k n e' e) :
    Alike k n (.ok (.schema ⟨e'⟩)) (.ok (.schema ⟨e⟩))
  | rows (rows : List Row) : Alike k n (.ok (.rows rows)) (.ok (.rows rows))
  | flag (b : Bool) : Alike k n (.ok (.flag b)) (.ok (.flag b))

/-- Two computations that end alike and reach the same, behind logs that are apart. -/
def HandInHand {α : Type} (base extra : Log) (x' x : Attempt Logged α) : Prop :=
  ∀ log' log, Apart base extra log' log → ∃ r es,
    StateT.run (ExceptT.run x) log = (r, log ++ es) ∧
      StateT.run (ExceptT.run x') log' = (r, log' ++ es.map (Event.later extra.length))

section
variable {α β : Type}

theorem handInHand_throw (e : Error) :
    HandInHand base extra (throw e : Attempt Logged α) (throw e) := fun log' log _ =>
  ⟨.error e, [], by rw [List.append_nil]; rfl, by rw [List.map_nil, List.append_nil]; rfl⟩

theorem handInHand_logCall (hbase : Settled base) (hextra : Settled (base ++ extra)) {place : Nat}
    (hplace : base.length ≤ place) (c : IoCall) (answer : History → Except Error α) :
    HandInHand base extra (logCall (place + extra.length) c answer) (logCall place c answer) := by
  intro log' log h
  refine ⟨answer (callsTo place log), [.call place c], rfl, ?_⟩
  rw [← h.callsTo hbase hextra hplace]
  rfl

theorem HandInHand.bind {x' x : Attempt Logged α} {f' f : α → Attempt Logged β}
    (hx : HandInHand base extra x' x) (hf : ∀ a, HandInHand base extra (f' a) (f a)) :
    HandInHand base extra (x' >>= f') (x >>= f) := by
  intro log' log h
  obtain ⟨r, es, hr, hr'⟩ := hx log' log h
  cases r with
  | error e => exact ⟨.error e, es, by rw [run_attempt_bind, hr], by rw [run_attempt_bind, hr']⟩
  | ok a =>
    obtain ⟨r, es', hr₂, hr₂'⟩ := hf a _ _ (h.append es)
    refine ⟨r, es ++ es', ?_, ?_⟩
    · rw [run_attempt_bind, hr, ← List.append_assoc]
      exact hr₂
    · rw [run_attempt_bind, hr', List.map_append, ← List.append_assoc]
      exact hr₂'

end

/-- An executor prepares a statement with one call, and goes on with the statement. -/
theorem prepare_bind_eq {α : Type} (place : Nat) (o : Database) (sql : String)
    (f : PreparedStatement Logged → Attempt Logged α) :
    (handle place o).prepare sql >>= f =
      logCall place (.prepare sql) (o.prepare · sql) >>= fun _ => f (prepared place o) := by
  unfold handle
  rw [bind_assoc]
  rfl

variable {e e' : Executor Logged}

/-- Twins execute a statement hand in hand. -/
theorem Twins.execute (h : Twins base.length extra.length e' e) (hbase : Settled base)
    (hextra : Settled (base ++ extra)) (sql : String) (params : List Value) :
    HandInHand base extra (e'.execute sql params) (e.execute sql params) := by
  obtain ⟨place, o, hplace, rfl, rfl⟩ := h
  unfold Executor.execute
  rw [prepare_bind_eq, prepare_bind_eq]
  exact (handInHand_logCall hbase hextra hplace _ _).bind fun _ =>
    handInHand_logCall hbase hextra hplace (.execute params) (o.execute · params)

/-- Twins fetch rows hand in hand. -/
theorem Twins.fetch (h : Twins base.length extra.length e' e) (hbase : Settled base)
    (hextra : Settled (base ++ extra)) (sql : String) (params : List Value) :
    HandInHand base extra (e'.fetch sql params) (e.fetch sql params) := by
  obtain ⟨place, o, hplace, rfl, rfl⟩ := h
  unfold Executor.fetch
  rw [prepare_bind_eq, prepare_bind_eq]
  refine (handInHand_logCall hbase hextra hplace _ _).bind fun _ =>
    (handInHand_logCall hbase hextra hplace (.execute params) (o.execute · params)).bind
      fun b => ?_
  cases b with
  | false => exact handInHand_throw _
  | true => exact handInHand_logCall hbase hextra hplace .fetchAll o.fetchAll

/-- The states of two runs: the same manager, up to the place of its executor. -/
structure Alongside (base extra : Log) (t s : State) : Prop where
  config : t.manager.config = s.manager.config
  log : Apart base extra t.log s.log
  connection : Option.Rel (fun c' c => c'.1 = c.1 ∧ Twins base.length extra.length c'.2 c.2)
    t.manager.connection s.manager.connection

/-- The same step in two runs: alike outcomes, the same reached, and alike managers behind it. -/
structure Step.Mirrors (k n : Nat) (p q : Step) : Prop where
  outcome : Alike k n p.outcome q.outcome
  reached : ∃ es, q.after.log = q.before.log ++ es ∧
    p.after.log = p.before.log ++ es.map (Event.later n)
  config : p.after.manager.config = q.after.manager.config
  connectionName : p.after.manager.connectionName = q.after.manager.connectionName

/-- The call with connectors that do not know of the `n` events from place `k` on. -/
def Action.without (k n : Nat) : Action → Action
  | connect w => connect (w.without k n)
  | connectNamed w name => connectNamed (w.without k n) name
  | disconnect => disconnect
  | table name => table name
  | schema => schema
  | query sql params => query sql params
  | execute sql params => execute sql params

theorem Action.target_without {config : DatabaseConfig} (k n : Nat)
    (ha : a.target? config = some (w, name)) :
    (a.without k n).target? config = some (w.without k n, name) := by
  cases a with
  | connect | connectNamed =>
    cases ha
    rfl
  | disconnect | table | schema | query | execute => cases ha

theorem Action.needsConnection_without (k n : Nat) (ha : a.NeedsConnection) :
    (a.without k n).NeedsConnection := by
  cases a with
  | connect | connectNamed | disconnect => exact ha
  | table | schema | query | execute => trivial

/-- What a name leads to depends on the configuration only. -/
theorem target_congr {g g' : Manager Logged} (h : g.config = g'.config) (name : String) :
    g.target name = g'.target name := by
  unfold target
  rw [h]

theorem Action.target_eq_none (config : DatabaseConfig) (ha : a.NeedsConnection) :
    a.target? config = none := by
  cases a with
  | connect | connectNamed | disconnect => cases ha
  | table | schema | query | execute => rfl

/-- A call does one thing at most. -/
theorem Happens.unique {o₁ o₂ : Except Error Response} {s₁ s₂ : State} (h₁ : Happens s a o₁ s₁)
    (h₂ : Happens s a o₂ s₂) : o₁ = o₂ ∧ s₁ = s₂ := by
  -- Two different cases are for different calls, or one finds what the other misses.
  cases h₁ <;> cases h₂ <;>
    grind [Action.target_eq_none, Action.target?, Action.NeedsConnection]

namespace Alongside

variable {t : State}

theorem closed (h : Alongside base extra t s) (hc : s.manager.connection = none) :
    t.manager.connection = none := by
  have hrel := h.connection
  rw [hc] at hrel
  cases hrel' : t.manager.connection with
  | none => rfl
  | some c =>
    rw [hrel'] at hrel
    cases hrel

theorem exists_twin (h : Alongside base extra t s) (hc : s.manager.connection = some (name, e)) :
    ∃ e', t.manager.connection = some (name, e') ∧ Twins base.length extra.length e' e := by
  have hrel := h.connection
  rw [hc] at hrel
  cases hrel' : t.manager.connection with
  | none =>
    rw [hrel'] at hrel
    cases hrel
  | some c =>
    rw [hrel'] at hrel
    cases hrel with
    | some hc' =>
      obtain ⟨name', e'⟩ := c
      obtain ⟨rfl, htwins⟩ := hc'
      exact ⟨e', rfl, htwins⟩

theorem connectionName (h : Alongside base extra t s) :
    t.manager.connectionName = s.manager.connectionName := by
  unfold Manager.connectionName
  cases hc : s.manager.connection with
  | none => rw [h.closed hc]
  | some c =>
    obtain ⟨name, e⟩ := c
    obtain ⟨e', hc', -⟩ := h.exists_twin hc
    rw [hc']
    rfl

theorem isConnected (h : Alongside base extra t s) :
    t.manager.isConnected = s.manager.isConnected := by
  have hname := congrArg Option.isSome h.connectionName
  rwa [Manager.connectionName, Manager.connectionName, Option.isSome_map, Option.isSome_map]
    at hname

/-- Whatever both managers reach, they stay alongside. -/
theorem append (h : Alongside base extra t s) (es : Log) :
    Alongside base extra ⟨t.manager, t.log ++ es.map (Event.later extra.length)⟩
      ⟨s.manager, s.log ++ es⟩ :=
  ⟨h.config, h.log.append es, h.connection⟩

end Alongside

/-- What a call does in one run it does in the other. -/
theorem Happens.alongside {t s' : State} {outcome : Except Error Response}
    (hhappens : Happens s a outcome s') (h : Alongside base extra t s) (hbase : Settled base)
    (hextra : Settled (base ++ extra)) :
    ∃ outcome' t', Happens t (a.without base.length extra.length) outcome' t' ∧
      Alike base.length extra.length outcome' outcome ∧
      (∃ es, s'.log = s.log ++ es ∧ t'.log = t.log ++ es.map (Event.later extra.length)) ∧
      Alongside base extra t' s' := by
  have htarget : ∀ {w name}, a.target? s.manager.config = some (w, name) →
      (a.without base.length extra.length).target? t.manager.config =
        some (w.without base.length extra.length, name) := by
    intro w name ha
    rw [h.config]
    exact Action.target_without _ _ ha
  have hnothing : ∃ es, s.log = s.log ++ es ∧ t.log = t.log ++ es.map (Event.later extra.length) :=
    ⟨[], by simp⟩
  cases hhappens with
  | kept ha hc =>
    obtain ⟨e', hc', -⟩ := h.exists_twin hc
    exact ⟨_, t, .kept (htarget ha) hc', .done, hnothing, h⟩
  | refused ha hc ht =>
    rw [← target_congr h.config] at ht
    exact ⟨_, t, .refused (htarget ha) (h.closed hc) ht, .error _, hnothing, h⟩
  | @failed _ w _ c driver e ha hc ht hw =>
    rw [← target_congr h.config] at ht
    rw [← h.log.without w] at hw
    exact ⟨_, _, .failed (htarget ha) (h.closed hc) ht hw, .error _, ⟨_, rfl, rfl⟩,
      h.append [.connect c (driver.dsn c) (.error e)]⟩
  | @opened _ w _ _ _ o ha hc ht hw =>
    rw [← target_congr h.config] at ht
    rw [← h.log.without w] at hw
    refine ⟨_, _, .opened (htarget ha) (h.closed hc) ht hw, .done, ⟨_, rfl, rfl⟩, h.config,
      h.log.append _, .some ⟨rfl, s.log.length, o, h.log.length.1, rfl, ?_⟩⟩
    -- The executor is handed out at the end of each log.
    rw [h.log.length.2]
  | disconnected =>
    refine ⟨_, _, .disconnected, ?_, hnothing, h.config, h.log, .none⟩
    rw [h.isConnected]
    exact .closed _
  | unavailable ha hc =>
    exact ⟨_, t, .unavailable (Action.needsConnection_without _ _ ha) (h.closed hc), .error _,
      hnothing, h⟩
  | table hc =>
    obtain ⟨e', hc', htwins⟩ := h.exists_twin hc
    exact ⟨_, t, .table hc', .table htwins _, hnothing, h⟩
  | schema hc =>
    obtain ⟨e', hc', htwins⟩ := h.exists_twin hc
    exact ⟨_, t, .schema hc', .schema htwins, hnothing, h⟩
  | @queried _ sql params _ r _ hc hr =>
    obtain ⟨e', hc', htwins⟩ := h.exists_twin hc
    obtain ⟨r', es, hrun, hrun'⟩ := htwins.fetch hbase hextra sql params _ _ h.log
    obtain ⟨rfl, rfl⟩ := Prod.mk.inj (hr.symm.trans hrun)
    refine ⟨_, _, .queried hc' hrun', ?_, ⟨es, rfl, rfl⟩, h.append es⟩
    cases r with
    | error e => exact .error e
    | ok rows => exact .rows rows
  | @executed _ sql params _ r _ hc hr =>
    obtain ⟨e', hc', htwins⟩ := h.exists_twin hc
    obtain ⟨r', es, hrun, hrun'⟩ := htwins.execute hbase hextra sql params _ _ h.log
    obtain ⟨rfl, rfl⟩ := Prod.mk.inj (hr.symm.trans hrun)
    refine ⟨_, _, .executed hc' hrun', ?_, ⟨es, rfl, rfl⟩, h.append es⟩
    cases r with
    | error e => exact .error e
    | ok b => exact .flag b

/-- One call in both runs. -/
theorem alongside_step {t : State} (h : Alongside base extra t s) (hbase : Settled base)
    (hextra : Settled (base ++ extra)) (a : Action) :
    (step t (a.without base.length extra.length)).Mirrors base.length extra.length (step s a) ∧
      Alongside base extra (step t (a.without base.length extra.length)).after
        (step s a).after := by
  obtain ⟨outcome, t', hhappens, halike, hreached, halongside⟩ :=
    (happens_step s a).alongside h hbase hextra
  obtain ⟨rfl, rfl⟩ := hhappens.unique (happens_step t _)
  exact ⟨⟨halike, hreached, halongside.config, halongside.connectionName⟩, halongside⟩

/-- All calls in both runs. -/
theorem alongside_steps (hbase : Settled base) (hextra : Settled (base ++ extra))
    (as : List Action) : ∀ {t s : State}, Alongside base extra t s →
      List.Forall₂ (Step.Mirrors base.length extra.length)
        (steps t (as.map (Action.without base.length extra.length))) (steps s as) := by
  induction as with
  | nil => exact fun _ => .nil
  | cons a as ih =>
    intro t s h
    obtain ⟨hmirrors, hafter⟩ := alongside_step h hbase hextra a
    exact .cons hmirrors (ih hafter)

/-! ## No trace -/

/-- Behind some calls of a new manager with a configuration. -/
def Reachable (config : DatabaseConfig) (s : State) : Prop := ∃ past, s = reach (start config) past

variable {config : DatabaseConfig}

theorem Reachable.step (h : Reachable config s) (a : Action) :
    Reachable config (step s a).after := by
  obtain ⟨past, rfl⟩ := h
  exact ⟨past ++ [a], by simp [reach]⟩

theorem Reachable.placed (h : Reachable config s) : Placed s := by
  obtain ⟨past, rfl⟩ := h
  exact (placed_start config).reach past

theorem Reachable.config_eq (h : Reachable config s) : s.manager.config = config := by
  obtain ⟨past, rfl⟩ := h
  exact ((accounted_start config).run past).unchanged

/-- **A failed connect leaves no trace.** In every state of a manager without an open connection a
connect under any name is answered by the first check that fails: an unknown name, an unsupported
driver, maintenance, all without a connector, or else by the answer of the connector, which is asked
once, with the settings of the connection and the data source name of its driver. If the connect
fails, the manager is as before, and all later calls have alike outcomes and reach the same as
without the failed connect, when connectors do not heed it. -/
theorem failed_connect_traceless (hs : Reachable config s) (hc : s.manager.connection = none)
    (ha : a.target? config = some (w, name)) :
    ∃ reached, Answered config w name s.log (step s a).outcome reached ∧
      (step s a).after.log = s.log ++ reached ∧
      ∀ e, (step s a).outcome = .error e →
        (step s a).after.manager = s.manager ∧
        ∀ later, List.Forall₂ (Step.Mirrors s.log.length reached.length)
          (steps (step s a).after (later.map (Action.without s.log.length reached.length)))
          (steps s later) := by
  obtain ⟨reached, hanswered, hlog, hkept⟩ :=
    (happens_step s a).answered (hs.config_eq.symm ▸ ha) hc
  rw [hs.config_eq] at hanswered
  refine ⟨reached, hanswered, hlog, fun e he => ⟨hkept e he, fun later => ?_⟩⟩
  have hextra : Settled (s.log ++ reached) := hlog ▸ (hs.step a).placed.settled
  refine alongside_steps hs.placed.settled hextra later ⟨?_, ?_, ?_⟩
  · rw [hkept e he]
  · rw [hlog]
    exact Apart.refl _ _
  · rw [hkept e he, hc]
    exact .none

/-- A configuration with one connection. -/
def oneConnection : DatabaseConfig := .single "main" { driver := "mysql" }

/-- A connector that opens nothing. -/
def refusing : Network := fun _ _ _ => .error (.execution "refused")

/-- Behind one connect that the connector refuses. -/
theorem refused_connect_traceless :
    (step (start oneConnection) (.connectNamed refusing "main")).outcome =
      .error (.execution "refused") ∧
    (step (start oneConnection) (.connectNamed refusing "main")).after.manager =
      (start oneConnection).manager ∧
    ∀ later, List.Forall₂ (Step.Mirrors 0 1)
      (steps (step (start oneConnection) (.connectNamed refusing "main")).after
        (later.map (Action.without 0 1)))
      (steps (start oneConnection) later) := by
  have houtcome : (step (start oneConnection) (.connectNamed refusing "main")).outcome =
      .error (.execution "refused") := rfl
  have hreachable : Reachable oneConnection (start oneConnection) := ⟨[], rfl⟩
  have htarget : (Action.connectNamed refusing "main").target? oneConnection =
      some (refusing, "main") := rfl
  obtain ⟨reached, _, hlog, htraceless⟩ := failed_connect_traceless hreachable rfl htarget
  obtain ⟨hmanager, hlater⟩ := htraceless _ houtcome
  have hreached : reached.length = 1 := (congrArg List.length hlog).symm
  rw [hreached] at hlater
  exact ⟨houtcome, hmanager, hlater⟩

end SqlCompose.Manager
