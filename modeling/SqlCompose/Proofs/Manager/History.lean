import SqlCompose.Proofs.Manager.Connecting

/-!
# The history of a manager

What a manager reaches is recorded in a `Log`: each question to a connector with its answer, and
each call to the executor of a connection. An executor is known by its place in the log, the place
of the answer that handed it out. Connectors and databases answer as they like. `Action` is a call
of a manager as data, `step` runs one on a manager and `steps` runs one after the other.

`Happens` says once what a call can do. What holds in every reachable state (`Accounted`) follows
by induction over the past, and what a call does there (`Step.Disciplined`) by its cases; the two
together are `connection_history`.
-/

namespace SqlCompose.Manager

/-! ## What is reached -/

/-- What reaches a connector or a database. -/
inductive Event
  /-- A connector is asked for the database of the settings and a data source name, and answers. -/
  | connect (c : ConnectionConfig) (dsn : String) (answer : Except Error Database)
  /-- A call to the executor that the event at a place handed out. -/
  | call (place : Nat) (c : IoCall)

/-- All that happened, in order. -/
abbrev Log := List Event

/-- Computations that write the log. -/
abbrev Logged := StateM Log

/-- The calls to one executor. -/
def callsTo (place : Nat) (log : Log) : History :=
  log.filterMap fun
    | .call n c => if n = place then some c else none
    | .connect .. => none

/-- A call to the executor from a place, with its answer. -/
def logCall {α : Type} (place : Nat) (c : IoCall) (answer : History → Except Error α) :
    Attempt Logged α :=
  ExceptT.mk fun log => (answer (callsTo place log), log ++ [.call place c])

/-- A statement that the executor from a place prepared. -/
def prepared (place : Nat) (o : Database) : PreparedStatement Logged where
  execute values := logCall place (.execute values) (o.execute · values)
  fetchAll := logCall place .fetchAll o.fetchAll

/-- The executor of a database that the event at a place handed out. -/
def handle (place : Nat) (o : Database) : Executor Logged where
  dialect := o.dialect
  prepare sql := do
    logCall place (.prepare sql) (o.prepare · sql)
    return prepared place o

/-- The answers of a connector, each behind all that happened before. -/
abbrev Network := Log → ConnectionConfig → String → Except Error Database

/-- The connector that answers what it finds on the network. -/
def Network.connector (w : Network) : Connector Logged := fun c dsn =>
  ExceptT.mk fun log =>
    ((w log c dsn).map (handle log.length), log ++ [.connect c dsn (w log c dsn)])

/-! ## Calls of a manager -/

/-- A call of a manager. -/
inductive Action
  | connect (w : Network)
  | connectNamed (w : Network) (name : String)
  | disconnect
  | table (name : String)
  | schema
  | query (sql : String) (params : List Value)
  | execute (sql : String) (params : List Value)

/-- What a call of a manager answers. -/
inductive Response
  | done
  | closed (b : Bool)
  | table (b : Builder Logged)
  | schema (s : Schema Logged)
  | rows (rows : List Row)
  | flag (b : Bool)

/-- Connects; a manager that fails to connect stays as it is. -/
def Action.opening (g : Manager Logged) (x : Attempt Logged (Manager Logged)) :
    Logged (Except Error Response × Manager Logged) := do
  match ← x.run with
  | .ok g' => return (.ok .done, g')
  | .error e => return (.error e, g)

/-- Runs a call on a manager. -/
def Action.run (g : Manager Logged) : Action → Logged (Except Error Response × Manager Logged)
  | connect w => Action.opening g (g.connect w.connector)
  | connectNamed w name => Action.opening g (g.connectNamed w.connector name)
  | disconnect => return (.ok (.closed g.disconnect.1), g.disconnect.2)
  | table name => return (g.table name |>.map .table, g)
  | schema => return (g.schema.map .schema, g)
  | query sql params => do
    let r ← (g.query sql params).run
    return (r.map .rows, g)
  | execute sql params => do
    let r ← (g.execute sql params).run
    return (r.map .flag, g)

/-- A manager and all that happened. -/
structure State where
  manager : Manager Logged
  log : Log

/-- A new manager. -/
def start (config : DatabaseConfig) : State := ⟨{ config }, []⟩

/-- A call that was made, with the states around it and its outcome. -/
structure Step where
  before : State
  action : Action
  outcome : Except Error Response
  after : State

def step (s : State) (a : Action) : Step :=
  let ((outcome, manager), log) := StateT.run (a.run s.manager) s.log
  ⟨s, a, outcome, ⟨manager, log⟩⟩

/-- The calls one after the other. -/
def steps : State → List Action → List Step
  | _, [] => []
  | s, a :: as => step s a :: steps (step s a).after as

/-- The state behind all calls. -/
def reach (s : State) (as : List Action) : State := as.foldl (fun s a => (step s a).after) s

/-! ## What a call does -/

namespace Action

/-- The connector and the name with which a call connects, if it does. -/
def target? (config : DatabaseConfig) : Action → Option (Network × String)
  | connect w => some (w, config.default)
  | connectNamed w name => some (w, name)
  | _ => none

/-- The call is for an open connection. -/
def NeedsConnection : Action → Prop
  | table _ | schema | query _ _ | execute _ _ => True
  | connect _ | connectNamed _ _ | disconnect => False

end Action

/-- What a call does in a state: its outcome and the state behind it. -/
inductive Happens (s : State) : Action → Except Error Response → State → Prop
  /-- An open connection stays, whatever the name. -/
  | kept {a : Action} {w : Network} {name : String} {open_ : String × Executor Logged}
    (ha : a.target? s.manager.config = some (w, name)) (hc : s.manager.connection = some open_) :
    Happens s a (.ok .done) s
  /-- A name that is not configured or must not be connected to is refused. -/
  | refused {a : Action} {w : Network} {name : String} {e : Error}
    (ha : a.target? s.manager.config = some (w, name)) (hc : s.manager.connection = none)
    (ht : s.manager.target name = .error e) : Happens s a (.error e) s
  | failed {a : Action} {w : Network} {name : String} {c : ConnectionConfig} {driver : Driver}
    {e : Error} (ha : a.target? s.manager.config = some (w, name))
    (hc : s.manager.connection = none) (ht : s.manager.target name = .ok (c, driver))
    (hw : w s.log c (driver.dsn c) = .error e) :
    Happens s a (.error e) ⟨s.manager, s.log ++ [.connect c (driver.dsn c) (.error e)]⟩
  | opened {a : Action} {w : Network} {name : String} {c : ConnectionConfig} {driver : Driver}
    {o : Database} (ha : a.target? s.manager.config = some (w, name))
    (hc : s.manager.connection = none) (ht : s.manager.target name = .ok (c, driver))
    (hw : w s.log c (driver.dsn c) = .ok o) :
    Happens s a (.ok .done)
      ⟨{ s.manager with connection := some (name, handle s.log.length o) },
        s.log ++ [.connect c (driver.dsn c) (.ok o)]⟩
  | disconnected :
    Happens s .disconnect (.ok (.closed s.manager.isConnected))
      ⟨{ s.manager with connection := none }, s.log⟩
  | unavailable {a : Action} (ha : a.NeedsConnection) (hc : s.manager.connection = none) :
    Happens s a (.error .connectionUnavailable) s
  | table {name t : String} {e : Executor Logged} (hc : s.manager.connection = some (name, e)) :
    Happens s (.table t) (.ok (.table (.on e t))) s
  | schema {name : String} {e : Executor Logged} (hc : s.manager.connection = some (name, e)) :
    Happens s .schema (.ok (.schema ⟨e⟩)) s
  | queried {name sql : String} {params : List Value} {e : Executor Logged}
    {r : Except Error (List Row)} {log : Log} (hc : s.manager.connection = some (name, e))
    (hr : StateT.run (ExceptT.run (e.fetch sql params)) s.log = (r, log)) :
    Happens s (.query sql params) (r.map .rows) ⟨s.manager, log⟩
  | executed {name sql : String} {params : List Value} {e : Executor Logged}
    {r : Except Error Bool} {log : Log} (hc : s.manager.connection = some (name, e))
    (hr : StateT.run (ExceptT.run (e.execute sql params)) s.log = (r, log)) :
    Happens s (.execute sql params) (r.map .flag) ⟨s.manager, log⟩

variable {s : State}

/-- What the network answers is what a manager that connects reaches. -/
theorem run_connectNamed_network (g : Manager Logged) (w : Network) (name : String) (log : Log) :
    StateT.run (ExceptT.run (g.connectNamed w.connector name)) log =
      match g.connection with
      | some _ => (.ok g, log)
      | none =>
        match g.target name with
        | .error e => (.error e, log)
        | .ok (c, driver) =>
          ((w log c (driver.dsn c)).map fun o =>
              { g with connection := some (name, handle log.length o) },
            log ++ [.connect c (driver.dsn c) (w log c (driver.dsn c))]) := by
  have hanswer : ∀ c dsn, StateT.run (ExceptT.run (w.connector c dsn)) log =
      ((w log c dsn).map (handle log.length), log ++ [.connect c dsn (w log c dsn)]) :=
    fun _ _ => rfl
  rw [run_connectNamed]
  cases g.connection with
  | some open_ => rfl
  | none =>
    cases g.target name with
    | error e => rfl
    | ok target =>
      obtain ⟨c, driver⟩ := target
      dsimp only
      rw [hanswer]
      cases w log c (driver.dsn c) <;> rfl

/-- An executor is used only if a connection is open. -/
theorem run_executor {α : Type} (g : Manager Logged) (f : Executor Logged → Attempt Logged α)
    (log : Log) :
    StateT.run (ExceptT.run (ExceptT.mk (pure g.executor) >>= f)) log =
      match g.connection with
      | some (_, e) => StateT.run (ExceptT.run (f e)) log
      | none => (.error .connectionUnavailable, log) := by
  unfold executor
  cases g.connection <;> rfl

theorem step_eq {a : Action} {outcome : Except Error Response} {g : Manager Logged}
    {log : Log} (h : StateT.run (a.run s.manager) s.log = ((outcome, g), log)) :
    step s a = ⟨s, a, outcome, ⟨g, log⟩⟩ := by
  unfold step
  rw [h]

/-- Calls that connect. -/
theorem happens_opening {a : Action} {w : Network} {name : String}
    (ha : a.target? s.manager.config = some (w, name))
    (hrun : a.run s.manager =
      Action.opening s.manager (s.manager.connectNamed w.connector name)) :
    Happens s a (step s a).outcome (step s a).after := by
  have hopen := run_connectNamed_network s.manager w name s.log
  have hstep : ∀ r log, StateT.run (ExceptT.run (s.manager.connectNamed w.connector name)) s.log =
      (r, log) → StateT.run (a.run s.manager) s.log =
        match r with
        | .ok g => ((.ok .done, g), log)
        | .error e => ((.error e, s.manager), log) := by
    intro r log hr
    rw [hrun, Action.opening, StateT.run_bind, hr]
    cases r <;> rfl
  cases hc : s.manager.connection with
  | some open_ =>
    rw [hc] at hopen
    rw [step_eq (hstep _ _ hopen)]
    exact .kept ha hc
  | none =>
    rw [hc] at hopen
    cases ht : s.manager.target name with
    | error e =>
      simp only [ht] at hopen
      rw [step_eq (hstep _ _ hopen)]
      exact .refused ha hc ht
    | ok target =>
      obtain ⟨c, driver⟩ := target
      cases hw : w s.log c (driver.dsn c) with
      | error e =>
        simp only [ht, hw] at hopen
        rw [step_eq (hstep _ _ hopen)]
        exact .failed ha hc ht hw
      | ok o =>
        simp only [ht, hw] at hopen
        rw [step_eq (hstep _ _ hopen)]
        exact .opened ha hc ht hw

/-- Calls that send a statement through the open connection. -/
theorem happens_statement {α : Type} {a : Action} {f : Executor Logged → Attempt Logged α}
    {reply : α → Response} (ha : a.NeedsConnection)
    (hrun : a.run s.manager = do
      let r ← ExceptT.run (ExceptT.mk (pure s.manager.executor) >>= f)
      return (r.map reply, s.manager))
    (hsent : ∀ {name e r log}, s.manager.connection = some (name, e) →
      StateT.run (ExceptT.run (f e)) s.log = (r, log) →
      Happens s a (r.map reply) ⟨s.manager, log⟩) :
    Happens s a (step s a).outcome (step s a).after := by
  have hexecutor := run_executor s.manager f s.log
  have hstep : ∀ {r log}, StateT.run (ExceptT.run
      (ExceptT.mk (pure s.manager.executor) >>= f)) s.log = (r, log) →
      StateT.run (a.run s.manager) s.log = ((r.map reply, s.manager), log) := by
    intro r log hr
    rw [hrun, StateT.run_bind, hr]
    rfl
  cases hc : s.manager.connection with
  | none =>
    rw [hc] at hexecutor
    rw [step_eq (hstep hexecutor)]
    exact .unavailable ha hc
  | some open_ =>
    rw [hc] at hexecutor
    rw [step_eq (hstep hexecutor)]
    exact hsent hc rfl

/-- The cases of `Happens` leave nothing out. -/
theorem happens_step (s : State) (a : Action) :
    Happens s a (step s a).outcome (step s a).after := by
  cases a with
  | connect w => exact happens_opening rfl rfl
  | connectNamed w name => exact happens_opening rfl rfl
  | disconnect => exact .disconnected
  | table t =>
    have hrun : StateT.run ((Action.table t).run s.manager) s.log =
      ((s.manager.table t |>.map .table, s.manager), s.log) := rfl
    rw [step_eq hrun]
    unfold Manager.table executor
    cases hc : s.manager.connection with
    | none => exact .unavailable trivial hc
    | some open_ => exact .table hc
  | schema =>
    have hrun : StateT.run (Action.schema.run s.manager) s.log =
      ((s.manager.schema.map .schema, s.manager), s.log) := rfl
    rw [step_eq hrun]
    unfold Manager.schema executor
    cases hc : s.manager.connection with
    | none => exact .unavailable trivial hc
    | some open_ => exact .schema hc
  | query sql params => exact happens_statement trivial rfl .queried
  | execute sql params => exact happens_statement trivial rfl .executed

/-! ## Calls to one executor -/

section
variable {α β : Type} {place : Nat}

/-- The computation makes calls to the executor from the place and reaches nothing else. -/
def CallsOnly (place : Nat) (x : Attempt Logged α) : Prop :=
  ∀ log, ∃ calls : List IoCall,
    (StateT.run (ExceptT.run x) log).2 = log ++ calls.map (.call place)

theorem callsOnly_logCall (c : IoCall) (answer : History → Except Error α) :
    CallsOnly place (logCall place c answer) := fun _ => ⟨[c], rfl⟩

theorem callsOnly_executePrepared (o : Database) (values : List Value) :
    CallsOnly place ((prepared place o).execute values) := callsOnly_logCall _ _

theorem callsOnly_fetchAll (o : Database) : CallsOnly place (prepared place o).fetchAll :=
  callsOnly_logCall _ _

theorem callsOnly_throw (e : Error) : CallsOnly place (throw e : Attempt Logged α) :=
  fun log => ⟨[], by simp; rfl⟩

theorem CallsOnly.bind {x : Attempt Logged α} {f : α → Attempt Logged β} (hx : CallsOnly place x)
    (hf : ∀ a, CallsOnly place (f a)) : CallsOnly place (x >>= f) := by
  intro log
  obtain ⟨calls, hcalls⟩ := hx log
  rw [run_attempt_bind]
  rcases hr : StateT.run (ExceptT.run x) log with ⟨r, log'⟩
  rw [hr] at hcalls
  subst hcalls
  cases r with
  | error e => exact ⟨calls, rfl⟩
  | ok a =>
    obtain ⟨more, hmore⟩ := hf a (log ++ calls.map (.call place))
    exact ⟨calls ++ more, by rw [List.map_append, ← List.append_assoc]; exact hmore⟩

/-- What prepares a statement first makes a call at least. -/
theorem exists_calls_prepare {o : Database} {sql : String}
    {f : PreparedStatement Logged → Attempt Logged α} {r : Except Error α} {log log' : Log}
    (h : StateT.run (ExceptT.run ((handle place o).prepare sql >>= f)) log = (r, log'))
    (hf : CallsOnly place (f (prepared place o))) :
    ∃ calls : List IoCall, log' = log ++ (.prepare sql :: calls).map (.call place) := by
  have hprepare : StateT.run (ExceptT.run ((handle place o).prepare sql)) log =
      ((o.prepare (callsTo place log) sql).map fun _ => prepared place o,
        log ++ [.call place (.prepare sql)]) := by
    unfold handle
    dsimp only
    rw [run_attempt_bind]
    unfold logCall
    simp only [ExceptT.run, ExceptT.mk, StateT.run]
    cases o.prepare (callsTo place log) sql <;> rfl
  rw [run_attempt_bind, hprepare] at h
  cases hanswer : o.prepare (callsTo place log) sql with
  | error e =>
    rw [hanswer] at h
    exact ⟨[], (congrArg Prod.snd h).symm⟩
  | ok u =>
    rw [hanswer] at h
    obtain ⟨calls, hcalls⟩ := hf (log ++ [.call place (.prepare sql)])
    have happend : log ++ [.call place (.prepare sql)] ++ calls.map (.call place) =
        log ++ (.prepare sql :: calls).map (.call place) := List.append_assoc ..
    exact ⟨calls, (congrArg Prod.snd h).symm.trans (hcalls.trans happend)⟩

theorem exists_calls_execute {o : Database} {sql : String} {params : List Value}
    {r : Except Error Bool} {log log' : Log}
    (h : StateT.run (ExceptT.run ((handle place o).execute sql params)) log = (r, log')) :
    ∃ calls : List IoCall, log' = log ++ (.prepare sql :: calls).map (.call place) :=
  exists_calls_prepare h (callsOnly_executePrepared o params)

theorem exists_calls_fetch {o : Database} {sql : String} {params : List Value}
    {r : Except Error (List Row)} {log log' : Log}
    (h : StateT.run (ExceptT.run ((handle place o).fetch sql params)) log = (r, log')) :
    ∃ calls : List IoCall, log' = log ++ (.prepare sql :: calls).map (.call place) := by
  have hrest : ∀ b : Bool, CallsOnly place (if b then (prepared place o).fetchAll
      else throw (.unexpectedResult (.notExecuted sql))) := by
    intro b
    cases b with
    | false => exact callsOnly_throw _
    | true => exact callsOnly_fetchAll o
  exact exists_calls_prepare h ((callsOnly_executePrepared o params).bind hrest)

theorem calls_of_execute {e : Executor Logged} {sql : String} {params : List Value}
    {r : Except Error Bool} {log log' : Log}
    (h : StateT.run (ExceptT.run (e.execute sql params)) log = (r, log')) (place : Nat)
    (o : Database) (he : e = handle place o) :
    ∃ calls : List IoCall, log' = log ++ calls.map (.call place) := by
  subst he
  obtain ⟨calls, hcalls⟩ := exists_calls_execute h
  exact ⟨_, hcalls⟩

theorem calls_of_fetch {e : Executor Logged} {sql : String} {params : List Value}
    {r : Except Error (List Row)} {log log' : Log}
    (h : StateT.run (ExceptT.run (e.fetch sql params)) log = (r, log')) (place : Nat)
    (o : Database) (he : e = handle place o) :
    ∃ calls : List IoCall, log' = log ++ calls.map (.call place) := by
  subst he
  obtain ⟨calls, hcalls⟩ := exists_calls_fetch h
  exact ⟨_, hcalls⟩

end

/-! ## The past -/

/-- A connector was asked and gave an executor. -/
def Event.isOpening : Event → Bool
  | .connect _ _ (.ok _) => true
  | _ => false

def Action.Connects : Action → Prop
  | connect _ | connectNamed _ _ => True
  | disconnect | table _ | schema | query _ _ | execute _ _ => False

/-- The calls of an action with an open connection: a statement is prepared first, and what sends no
statement makes no calls. -/
def Action.Makes (calls : List IoCall) : Action → Prop
  | query sql _ | execute sql _ => ∃ later, calls = .prepare sql :: later
  | connect _ | connectNamed _ _ | disconnect | table _ | schema => calls = []

namespace Step

/-- A disconnect that closed a connection. -/
def isClosing (p : Step) : Bool :=
  match p.action, p.outcome with
  | .disconnect, .ok (.closed b) => b
  | _, _ => false

/-- A call that connects and changes the manager. -/
def Opens (p : Step) : Prop := p.action.Connects ∧ p.after.manager ≠ p.before.manager

/-- The call opened the connection of a name that is configured, has a supported driver and is not
in maintenance mode; the one thing that it reached was a connector, whose answer is the executor. -/
structure OpensAs (p : Step) (config : DatabaseConfig) (name : String) (e : Executor Logged) :
    Prop where
  opens : p.Opens
  connection : p.after.manager.connection = some (name, e)
  answer : ∃ c dsn o, config.connections.get? name = some c ∧
    (c.driver = "mysql" ∨ c.driver = "sqlsrv") ∧ c.maintenanceMode = false ∧ c.dsn = .ok dsn ∧
    p.after.log = p.before.log ++ [.connect c dsn (.ok o)] ∧ e = handle p.before.log.length o

/-- What a call does with an open connection: what it reaches is the executor of the connection and
nothing else; no call that is for the connection changes the manager. -/
structure Uses (p : Step) (e : Executor Logged) : Prop where
  calls : ∃ (place : Nat) (o : Database) (calls : List IoCall), e = handle place o ∧
    p.action.Makes calls ∧ p.after.log = p.before.log ++ calls.map (.call place)
  kept : p.action.NeedsConnection → p.after.manager = p.before.manager
  outcome : match p.action with
    | .table t => p.outcome = .ok (.table (.on e t)) ∧ p.after.log = p.before.log
    | .schema => p.outcome = .ok (.schema ⟨e⟩) ∧ p.after.log = p.before.log
    | .query sql params => ∃ r, p.outcome = r.map .rows ∧
      StateT.run (ExceptT.run (e.fetch sql params)) p.before.log = (r, p.after.log)
    | .execute sql params => ∃ r, p.outcome = r.map .flag ∧
      StateT.run (ExceptT.run (e.execute sql params)) p.before.log = (r, p.after.log)
    | .connect _ | .connectNamed _ _ => p.outcome = .ok .done ∧ p.after = p.before
    | .disconnect => p.outcome = .ok (.closed true) ∧ p.after.log = p.before.log

/-- A call needs a connection or not, and uses the one that is open. -/
structure Disciplined (p : Step) : Prop where
  unavailable : p.action.NeedsConnection →
    (p.before.manager.connection = none ↔
      p.outcome = .error .connectionUnavailable ∧ p.after = p.before)
  uses : ∀ name e, p.before.manager.connection = some (name, e) → p.Uses e

end Step

/-- What the past says of a state: the configuration is the first one, an open connection is the one
that was opened last, and as many connections were opened as were closed, but for the open one. -/
structure Accounted (config : DatabaseConfig) (past : List Step) (s : State) : Prop where
  unchanged : s.manager.config = config
  opened : ∀ name e, s.manager.connection = some (name, e) → ∃ earlier p later,
    past = earlier ++ p :: later ∧ p.OpensAs config name e ∧ ∀ q ∈ later, ¬q.Opens
  balance : (s.log.countP Event.isOpening : Int) - past.countP Step.isClosing =
    if s.manager.isConnected then 1 else 0

variable {config : DatabaseConfig} {past : List Step} {a : Action}

theorem Action.connects_of_target {w : Network} {name : String}
    (ha : a.target? config = some (w, name)) : a.Connects ∧ ¬a.NeedsConnection := by
  cases a with
  | connect | connectNamed => exact ⟨trivial, id⟩
  | disconnect | table | schema | query | execute => cases ha

theorem Step.isClosing_eq_false {p : Step} (h : ∀ b, p.outcome ≠ .ok (.closed b)) :
    p.isClosing = false := by
  unfold isClosing
  split
  · next h' => exact absurd h' (h _)
  · rfl

/-- A call that leaves the connection alone and asks no connector with success. -/
theorem Accounted.keep (h : Accounted config past s) {p : Step} {log : Log}
    (hbefore : p.before = s) (hafter : p.after = ⟨s.manager, log⟩)
    (hlog : log.countP Event.isOpening = s.log.countP Event.isOpening)
    (hclosing : p.isClosing = false) : Accounted config (past ++ [p]) ⟨s.manager, log⟩ where
  unchanged := h.unchanged
  opened name e hc := by
    obtain ⟨earlier, p', later, rfl, hp', hlater⟩ := h.opened name e hc
    refine ⟨earlier, p', later ++ [p], by simp, hp', fun q hq hopens => ?_⟩
    rcases List.mem_append.1 hq with hq | hq
    · exact hlater q hq hopens
    · obtain rfl := List.mem_singleton.1 hq
      exact hopens.2 (by rw [hafter, hbefore])
  balance := by
    rw [List.countP_append, hlog, List.countP_singleton, hclosing]
    simpa using h.balance

/-- A call that opens a connection. -/
theorem Accounted.open {w : Network} {name : String} {c : ConnectionConfig} {driver : Driver}
    {o : Database} (h : Accounted config past s) {p : Step} (hbefore : p.before = s)
    (ha : p.action.target? s.manager.config = some (w, name)) (hc : s.manager.connection = none)
    (ht : s.manager.target name = .ok (c, driver)) (hclosing : p.isClosing = false)
    (hafter : p.after = ⟨{ s.manager with connection := some (name, handle s.log.length o) },
      s.log ++ [.connect c (driver.dsn c) (.ok o)]⟩) :
    Accounted config (past ++ [p]) p.after where
  unchanged := by
    rw [hafter]
    exact h.unchanged
  opened name' e hopen := by
    rw [hafter] at hopen
    cases hopen
    obtain ⟨hconfigured, hdriver, hmaintenance, hdsn⟩ := settings_of_target ht
    rw [h.unchanged] at hconfigured
    refine ⟨past, p, [], rfl, ⟨⟨(Action.connects_of_target ha).1, ?_⟩, ?_, c, driver.dsn c, o,
      hconfigured, hdriver, hmaintenance, hdsn, ?_, ?_⟩, by simp⟩
    · intro heq
      have hnone : p.after.manager.connection = none := by rw [heq, hbefore, hc]
      rw [hafter] at hnone
      cases hnone
    · rw [hafter]
    · rw [hafter, hbefore]
    · rw [hbefore]
  balance := by
    have hbalance := h.balance
    rw [isConnected, hc] at hbalance
    rw [hafter, List.countP_append, List.countP_append, List.countP_singleton,
      List.countP_singleton, hclosing]
    simp only [Event.isOpening, isConnected, Option.isSome_none, Option.isSome_some,
      Bool.false_eq_true, ↓reduceIte] at hbalance ⊢
    omega

/-- A call that closes what is open. -/
theorem Accounted.disconnect (h : Accounted config past s) {p : Step}
    (ha : p.action = .disconnect) (ho : p.outcome = .ok (.closed s.manager.isConnected))
    (hafter : p.after = ⟨{ s.manager with connection := none }, s.log⟩) :
    Accounted config (past ++ [p]) p.after where
  unchanged := by
    rw [hafter]
    exact h.unchanged
  opened name e hopen := by
    rw [hafter] at hopen
    cases hopen
  balance := by
    have hclosing : p.isClosing = s.manager.isConnected := by
      unfold Step.isClosing
      rw [ha, ho]
    have hbalance := h.balance
    rw [hafter, List.countP_append, List.countP_singleton, hclosing]
    cases hcon : s.manager.isConnected <;> rw [hcon] at hbalance <;>
      simp only [isConnected, Option.isSome_none, Bool.false_eq_true, ↓reduceIte] at hbalance ⊢ <;>
      omega

/-- An open connection has the executor that a connector handed out. -/
theorem Accounted.exists_handle (h : Accounted config past s) {name : String}
    {e : Executor Logged} (hc : s.manager.connection = some (name, e)) :
    ∃ place o, e = handle place o := by
  obtain ⟨_, p, _, _, hp, _⟩ := h.opened name e hc
  obtain ⟨_, _, o, _, _, _, _, _, he⟩ := hp.answer
  exact ⟨_, o, he⟩

theorem countP_isOpening_calls (log : Log) (place : Nat) (calls : List IoCall) :
    (log ++ calls.map (Event.call place)).countP Event.isOpening =
      log.countP Event.isOpening := by
  rw [List.countP_append, List.countP_map]
  simp [Function.comp_def, Event.isOpening]

theorem accounted_start (config : DatabaseConfig) : Accounted config [] (start config) where
  unchanged := rfl
  opened name e hc := by cases hc
  balance := rfl

/-- What a call through an open connection leaves behind. -/
theorem Accounted.use (h : Accounted config past s) {name : String} {e : Executor Logged}
    (hc : s.manager.connection = some (name, e)) {p : Step} {log : Log}
    (hlog : ∀ place o, e = handle place o → ∃ calls : List IoCall,
      log = s.log ++ calls.map (.call place))
    (hbefore : p.before = s) (hafter : p.after = ⟨s.manager, log⟩)
    (hclosing : p.isClosing = false) : Accounted config (past ++ [p]) ⟨s.manager, log⟩ := by
  obtain ⟨place, o, he⟩ := h.exists_handle hc
  obtain ⟨calls, rfl⟩ := hlog place o he
  exact h.keep hbefore hafter (countP_isOpening_calls _ _ _) hclosing

/-- One more call keeps the accounts. -/
theorem Accounted.happens {outcome : Except Error Response} {s' : State}
    (h : Accounted config past s) (hhappens : Happens s a outcome s') :
    Accounted config (past ++ [⟨s, a, outcome, s'⟩]) s' := by
  cases hhappens with
  | kept | refused | unavailable | table | schema =>
    exact h.keep rfl rfl rfl (Step.isClosing_eq_false nofun)
  | failed =>
    refine h.keep rfl rfl ?_ (Step.isClosing_eq_false nofun)
    rw [List.countP_append]
    rfl
  | opened ha hc ht hw => exact h.open rfl ha hc ht (Step.isClosing_eq_false nofun) rfl
  | disconnected => exact h.disconnect rfl rfl rfl
  | @queried _ _ _ _ r _ hc hr =>
    exact h.use hc (calls_of_fetch hr) rfl rfl
      (Step.isClosing_eq_false fun b => by cases r <;> nofun)
  | @executed _ _ _ _ r _ hc hr =>
    exact h.use hc (calls_of_execute hr) rfl rfl
      (Step.isClosing_eq_false fun b => by cases r <;> nofun)

/-- The accounts stay right through calls of any number. -/
theorem Accounted.run (as : List Action) : ∀ {past : List Step} {s : State},
    Accounted config past s → Accounted config (past ++ steps s as) (reach s as) := by
  induction as with
  | nil =>
    intro past s h
    rw [steps, List.append_nil]
    exact h
  | cons a as ih =>
    intro past s h
    have hstep : Accounted config (past ++ [step s a]) (step s a).after :=
      h.happens (happens_step s a)
    have hrest := ih hstep
    rw [List.append_assoc] at hrest
    exact hrest

/-! ## The discipline of a call -/

/-- Without a connection what is for a connection fails, and nothing is reached. -/
theorem Happens.eq_of_closed {outcome : Except Error Response} {s' : State}
    (hhappens : Happens s a outcome s') (ha : a.NeedsConnection)
    (hc : s.manager.connection = none) :
    outcome = .error .connectionUnavailable ∧ s' = s := by
  cases hhappens with
  | kept htarget | refused htarget | failed htarget | opened htarget =>
    exact absurd ha (Action.connects_of_target htarget).2
  | disconnected => exact ha.elim
  | unavailable => exact ⟨rfl, rfl⟩
  | table hopen | schema hopen | queried hopen | executed hopen =>
    rw [hc] at hopen
    cases hopen

/-- With a connection a call uses its executor. -/
theorem Happens.uses {outcome : Except Error Response} {s' : State} {name : String} {place : Nat}
    {o : Database} (hhappens : Happens s a outcome s')
    (hc : s.manager.connection = some (name, handle place o)) :
    (⟨s, a, outcome, s'⟩ : Step).Uses (handle place o) := by
  have hconnected : s.manager.isConnected = true := by rw [isConnected, hc]; rfl
  cases hhappens with
  | kept htarget =>
    cases a with
    | connect | connectNamed =>
      exact ⟨⟨place, o, [], rfl, rfl, by simp⟩, fun _ => rfl, rfl, rfl⟩
    | disconnect | table | schema | query | execute => cases htarget
  | refused _ hnone | failed _ hnone | opened _ hnone | unavailable _ hnone =>
    rw [hc] at hnone
    cases hnone
  | disconnected =>
    exact ⟨⟨place, o, [], rfl, rfl, by simp⟩, False.elim, by rw [hconnected], rfl⟩
  | table hopen | schema hopen =>
    rw [hc] at hopen
    cases hopen
    exact ⟨⟨place, o, [], rfl, rfl, by simp⟩, fun _ => rfl, rfl, rfl⟩
  | @queried _ _ _ _ r _ hopen hr =>
    rw [hc] at hopen
    cases hopen
    obtain ⟨calls, hcalls⟩ := exists_calls_fetch hr
    exact ⟨⟨place, o, _, rfl, ⟨calls, rfl⟩, hcalls⟩, fun _ => rfl, r, rfl, hr⟩
  | @executed _ _ _ _ r _ hopen hr =>
    rw [hc] at hopen
    cases hopen
    obtain ⟨calls, hcalls⟩ := exists_calls_execute hr
    exact ⟨⟨place, o, _, rfl, ⟨calls, rfl⟩, hcalls⟩, fun _ => rfl, r, rfl, hr⟩

/-- With a connection nothing fails for want of one before the executor is reached. -/
theorem Happens.reaches {outcome : Except Error Response} {s' : State} {name : String} {place : Nat}
    {o : Database} (hhappens : Happens s a outcome s') (ha : a.NeedsConnection)
    (hc : s.manager.connection = some (name, handle place o)) :
    ¬(outcome = .error .connectionUnavailable ∧ s' = s) := by
  have hgrows : ∀ {log : Log} {calls : List IoCall} {c : IoCall},
      log = s.log ++ (c :: calls).map (Event.call place) → (⟨s.manager, log⟩ : State) ≠ s := by
    rintro log calls c rfl heq
    have hlog := congrArg State.log heq
    simp at hlog
  rintro ⟨ho, hs⟩
  cases hhappens with
  | kept | disconnected | table | schema => cases ho
  | refused _ hnone | failed _ hnone | opened _ hnone | unavailable _ hnone =>
    rw [hc] at hnone
    cases hnone
  | @queried _ _ _ _ r _ hopen hr =>
    rw [hc] at hopen
    cases hopen
    obtain ⟨calls, hcalls⟩ := exists_calls_fetch hr
    exact hgrows hcalls hs
  | @executed _ _ _ _ r _ hopen hr =>
    rw [hc] at hopen
    cases hopen
    obtain ⟨calls, hcalls⟩ := exists_calls_execute hr
    exact hgrows hcalls hs

theorem Accounted.disciplined (h : Accounted config past s) (a : Action) :
    (step s a).Disciplined where
  unavailable ha := by
    refine ⟨(happens_step s a).eq_of_closed ha, fun hfails => ?_⟩
    cases hc : s.manager.connection with
    | none => exact hc
    | some open_ =>
      obtain ⟨name, e⟩ := open_
      obtain ⟨place, o, rfl⟩ := h.exists_handle hc
      exact absurd hfails ((happens_step s a).reaches ha hc)
  uses name e hc := by
    have hopen : s.manager.connection = some (name, e) := hc
    obtain ⟨place, o, rfl⟩ := h.exists_handle hopen
    exact (happens_step s a).uses hopen

/-- Behind all calls of a new manager, whatever connectors and databases answer: the configuration
is the first one; an open connection is the one that was opened last, under a configured name that
may be connected to, with the executor that the connector handed out; what was opened is closed but
for the open connection. There, what is for a connection fails without reaching anything exactly if
there is none, and with one every call reaches its executor at most. -/
theorem connection_history (config : DatabaseConfig) (as : List Action) :
    Accounted config (steps (start config) as) (reach (start config) as) ∧
      ∀ a, (step (reach (start config) as) a).Disciplined := by
  have haccounted : Accounted config (steps (start config) as) (reach (start config) as) :=
    (accounted_start config).run as
  exact ⟨haccounted, haccounted.disciplined⟩

end SqlCompose.Manager
