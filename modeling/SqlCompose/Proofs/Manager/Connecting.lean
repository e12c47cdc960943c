import SqlCompose.Manager
import SqlCompose.Proofs.Execution.Recording
import SqlCompose.Proofs.Outcome

/-!
# Connecting

What it takes to connect: a name that is configured, a supported driver and no maintenance mode
(`target_eq_ok_iff`, `settings_of_target`, `target_ne_unknown`). `run_connectNamed` connects with a
connector that has a state.
-/

namespace SqlCompose.Manager

theorem target_eq_ok_iff {m : Type → Type} {g : Manager m} {name : String} {c : ConnectionConfig}
    {driver : Driver} :
    g.target name = .ok (c, driver) ↔
      g.config.connection name = .ok c ∧ c.parseDriver = .ok driver ∧
        c.maintenanceMode = false := by
  unfold target
  simp only [bind_eq_ok_iff]
  constructor
  · rintro ⟨c', hc, driver', hd, h⟩
    cases hm : c'.maintenanceMode with
    | true =>
      rw [hm] at h
      cases h
    | false =>
      rw [hm] at h
      cases h
      exact ⟨hc, hd, hm⟩
  · rintro ⟨hc, hd, hm⟩
    refine ⟨c, hc, driver, hd, ?_⟩
    rw [hm]
    rfl

theorem connection_eq_ok_iff {config : DatabaseConfig} {name : String} {c : ConnectionConfig} :
    config.connection name = .ok c ↔ config.connections.get? name = some c := by
  unfold DatabaseConfig.connection
  cases config.connections.get? name <;> simp

theorem driver_of_parse {c : ConnectionConfig} {driver : Driver} (h : c.parseDriver = .ok driver) :
    c.driver = driver.name := by
  unfold ConnectionConfig.parseDriver Driver.parse at h
  split at h
  · next hc => rw [hc, Except.ok.inj h]
  · split at h
    · next hc => rw [hc, Except.ok.inj h]
    · cases h

theorem supported_of_parse {c : ConnectionConfig} {driver : Driver}
    (h : c.parseDriver = .ok driver) : c.driver = "mysql" ∨ c.driver = "sqlsrv" := by
  have hname := driver_of_parse h
  cases driver with
  | mySql => exact .inl hname
  | sqlServer => exact .inr hname

/-- The settings behind a name that may be connected to. -/
theorem settings_of_target {m : Type → Type} {g : Manager m} {name : String} {c : ConnectionConfig}
    {driver : Driver} (h : g.target name = .ok (c, driver)) :
    g.config.connections.get? name = some c ∧ (c.driver = "mysql" ∨ c.driver = "sqlsrv") ∧
      c.maintenanceMode = false ∧ c.dsn = .ok (driver.dsn c) := by
  obtain ⟨hconfigured, hparse, hmaintenance⟩ := target_eq_ok_iff.1 h
  exact ⟨connection_eq_ok_iff.1 hconfigured, supported_of_parse hparse, hmaintenance,
    ConnectionConfig.dsn_of_parse hparse⟩

/-- A configured connection is refused for other reasons than its name. -/
theorem target_ne_unknown {m : Type → Type} {g : Manager m} {name unknown : String}
    {c : ConnectionConfig} (h : g.config.connections.get? name = some c) :
    g.target name ≠ .error (.unknownConnection unknown) := by
  intro htarget
  unfold target at htarget
  rw [connection_eq_ok_iff.2 h, ok_bind_eq] at htarget
  cases hdriver : c.parseDriver with
  | error e =>
    rw [hdriver] at htarget
    cases htarget
    unfold ConnectionConfig.parseDriver Driver.parse at hdriver
    split at hdriver
    · cases hdriver
    · split at hdriver <;> cases hdriver
  | ok driver =>
    rw [hdriver, ok_bind_eq] at htarget
    cases hmaintenance : c.maintenanceMode <;>
    · rw [hmaintenance] at htarget
      cases htarget

/-- A connector is asked only without an open connection and with a target, and its answer is the
outcome. -/
theorem run_connectNamed {σ : Type} (g : Manager (StateM σ)) (connector : Connector (StateM σ))
    (name : String) (s : σ) :
    StateT.run (ExceptT.run (g.connectNamed connector name)) s =
      match g.connection with
      | some _ => (.ok g, s)
      | none =>
        match g.target name with
        | .error e => (.error e, s)
        | .ok (c, driver) =>
          match StateT.run (ExceptT.run (connector c (driver.dsn c))) s with
          | (.ok e, s') => (.ok { g with connection := some (name, e) }, s')
          | (.error e, s') => (.error e, s') := by
  unfold connectNamed isConnected
  cases g.connection with
  | some open_ => rfl
  | none =>
    show StateT.run (ExceptT.run (ExceptT.mk (pure (g.target name)) >>= _)) s = _
    rw [run_attempt_bind]
    cases g.target name with
    | error e => rfl
    | ok target =>
      obtain ⟨c, driver⟩ := target
      show StateT.run (ExceptT.run (connector c (driver.dsn c) >>= _)) s = _
      rw [run_attempt_bind]
      dsimp only
      obtain ⟨r, s'⟩ := StateT.run (ExceptT.run (connector c (driver.dsn c))) s
      cases r <;> rfl

/-- A manager whose default connection is configured does not find it unknown: if that is the
outcome, the connector said so. -/
theorem connect_unknown {σ : Type} {g : Manager (StateM σ)} {connector : Connector (StateM σ)}
    {s s' : σ} {c : ConnectionConfig} {unknown : String}
    (hc : g.config.connections.get? g.config.default = some c)
    (h : StateT.run (ExceptT.run (g.connect connector)) s =
      (.error (.unknownConnection unknown), s')) :
    ∃ dsn, StateT.run (ExceptT.run (connector c dsn)) s =
      (.error (.unknownConnection unknown), s') := by
  rw [connect, run_connectNamed] at h
  cases hopen : g.connection with
  | some open_ =>
    rw [hopen] at h
    cases h
  | none =>
    rw [hopen] at h
    cases htarget : g.target g.config.default with
    | error e =>
      rw [htarget] at h
      obtain rfl := Except.error.inj (congrArg Prod.fst h)
      exact absurd htarget (target_ne_unknown hc)
    | ok target =>
      obtain ⟨c', driver⟩ := target
      rw [htarget] at h
      dsimp only at h
      obtain rfl : c' = c := by
        have hconfigured := connection_eq_ok_iff.1 (target_eq_ok_iff.1 htarget).1
        exact Option.some.inj (hconfigured.symm.trans hc)
      refine ⟨driver.dsn c', ?_⟩
      split at h
      · cases h
      · next hanswer =>
        cases h
        exact hanswer

end SqlCompose.Manager
