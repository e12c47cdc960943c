import SqlCompose.Config
import SqlCompose.Proofs.Text.Boundary

/-!
# What a data source name tells

A data source name is the settings of a connection with a mark in front of each but the first
(`Driver.dsn_eq`). The settings are copied as they are, so a setting that holds a mark of its own is
read as two settings: the name of such a connection is also the name of another one. Where no
setting holds a mark that would end it early (`Driver.Legible`), names are equal exactly if the
settings are (`Driver.dsn_eq_iff`). `data_source_identified` is both together.
-/

namespace SqlCompose

namespace Driver

/-! ## Settings and marks -/

/-- What stands in front of the host. -/
def scheme : Driver → String
  | mySql => "mysql:host="
  | sqlServer => "sqlsrv:Server="

/-- What stands in front of a port. -/
def portMark : Driver → String
  | mySql => ";port="
  | sqlServer => ","

/-- What stands in front of the database. -/
def databaseMark : Driver → String
  | mySql => ";dbname="
  | sqlServer => ";Database="

/-- What stands in front of a character set. -/
def charsetMark : String := ";charset="

/-- The host with the port, if there is one. -/
def server (driver : Driver) (c : ConnectionConfig) : String :=
  c.host ++ c.port.elim "" fun p => driver.portMark ++ toString p

/-- The character set with its mark; SQL Server has none. -/
def charsetPart : Driver → ConnectionConfig → String
  | mySql, c => charsetMark ++ (tableOptions c).charset
  | sqlServer, _ => ""

/-- The settings that a data source name is about are the same. -/
structure SameSource (driver : Driver) (c c' : ConnectionConfig) : Prop where
  host : c.host = c'.host
  port : c.port = c'.port
  database : c.database = c'.database
  charset : driver = mySql → (tableOptions c).charset = (tableOptions c').charset

/-- No setting holds a mark that would end it early. A host without a port may not end like one with
a port either. -/
structure Legible (driver : Driver) (c : ConnectionConfig) : Prop where
  host : ¬driver.databaseMark.toList <:+: c.host.toList
  port : c.port = none → ∀ p : UInt16,
    ¬(driver.portMark ++ toString p).toList <:+ c.host.toList
  database : driver = mySql → ¬charsetMark.toList <:+: c.database.toList

variable {driver : Driver} {c c' : ConnectionConfig}

theorem dsn_eq (driver : Driver) (c : ConnectionConfig) : driver.dsn c =
    driver.scheme ++ driver.server c ++ driver.databaseMark ++ c.database ++
      driver.charsetPart c := by
  unfold dsn scheme server portMark databaseMark charsetPart charsetMark
  cases driver <;> simp only [String.append_assoc, String.append_empty]

theorem exists_databaseMark (driver : Driver) : ∃ t, driver.databaseMark.toList = ';' :: t ∧
    ';' ∉ t ∧ ',' ∉ t ∧ 'a' ∈ t := by
  cases driver <;> exact ⟨_, rfl, by decide, by decide, by decide⟩

theorem exists_portMark (driver : Driver) : ∃ x t, driver.portMark.toList = x :: t ∧
    (x = ';' ∨ x = ',') ∧ 'a' ∉ x :: t := by
  cases driver <;> exact ⟨_, _, rfl, by decide, by decide⟩

theorem toList_toString_uInt16 (p : UInt16) : (toString p).toList = Nat.toDigits 10 p.toNat :=
  Nat.toList_repr

/-! ## The server -/

/-- A port holds no mark of a database. -/
theorem databaseMark_not_infix_port (p : UInt16) :
    ¬driver.databaseMark.toList <:+: (driver.portMark ++ toString p).toList := by
  obtain ⟨t, hmark, -, -, ha⟩ := driver.exists_databaseMark
  obtain ⟨x, u, hport, -, hnot⟩ := driver.exists_portMark
  intro h
  have hmem : 'a' ∈ (driver.portMark ++ toString p).toList :=
    h.subset (by rw [hmark]; exact List.mem_cons_of_mem _ ha)
  rw [String.toList_append, hport, toList_toString_uInt16, List.mem_append] at hmem
  rcases hmem with hmem | hmem
  · exact hnot hmem
  · exact absurd (Text.isDigit_of_mem_toDigits 'a' hmem) (by decide)

/-- The server holds a mark of a database only if the host does. -/
theorem Legible.server (h : driver.Legible c) :
    ¬driver.databaseMark.toList <:+: (driver.server c).toList := by
  intro hserver
  unfold Driver.server at hserver
  rw [String.toList_append] at hserver
  cases hp : c.port with
  | none =>
    rw [hp] at hserver
    exact h.host (by simpa using hserver)
  | some p =>
    rw [hp] at hserver
    obtain ⟨t, hmark, hsemicolon, hcomma, -⟩ := driver.exists_databaseMark
    obtain ⟨x, u, hport, hx, -⟩ := driver.exists_portMark
    have hstart : Text.NotAt (· ∈ t) (driver.portMark ++ toString p).toList := by
      rw [String.toList_append, hport]
      refine Text.notAt_cons ?_ _
      rcases hx with rfl | rfl
      · exact hsemicolon
      · exact hcomma
    rw [hmark] at hserver
    rcases Text.infix_of_mark_infix_append hstart hserver with hhost | hclause
    · exact h.host (by rwa [hmark])
    · exact databaseMark_not_infix_port p (by rwa [hmark])

theorem notAt_reverse_portMark (driver : Driver) (host : String) :
    Text.NotAt (·.isDigit = true) (host ++ driver.portMark).toList.reverse := by
  rw [String.toList_append, List.reverse_append]
  cases driver <;> exact Text.notAt_cons (by decide) _

/-- A legible host without a port is no host with one. -/
theorem server_ne (h : driver.Legible c) (hp : c.port = none) {p : UInt16}
    (hp' : c'.port = some p) : driver.server c ≠ driver.server c' := by
  intro he
  have hhost : c.host = c'.host ++ (driver.portMark ++ toString p) := by
    simpa [Driver.server, hp, hp'] using he
  refine h.port hp p ?_
  rw [hhost, ← String.append_assoc, String.toList_append, String.toList_append,
    String.toList_append, List.append_assoc]
  exact List.suffix_append _ _

/-- The port of a server is told from behind. -/
theorem server_inj (h : driver.Legible c) (h' : driver.Legible c')
    (he : driver.server c = driver.server c') : c.host = c'.host ∧ c.port = c'.port := by
  cases hp : c.port with
  | none =>
    cases hp' : c'.port with
    | none => exact ⟨by simpa [Driver.server, hp, hp'] using he, rfl⟩
    | some p => exact absurd he (server_ne h hp hp')
  | some p =>
    cases hp' : c'.port with
    | none => exact absurd he.symm (server_ne h' hp' hp)
    | some p' =>
      have hl : (c.host ++ driver.portMark).toList ++ Nat.toDigits 10 p.toNat =
          (c'.host ++ driver.portMark).toList ++ Nat.toDigits 10 p'.toNat := by
        rw [← toList_toString_uInt16, ← toList_toString_uInt16, ← String.toList_append,
          ← String.toList_append, String.append_assoc, String.append_assoc]
        simpa [Driver.server, hp, hp'] using congrArg String.toList he
      obtain ⟨hfront, hnumber⟩ := Text.append_toDigits_inj (notAt_reverse_portMark driver _)
        (notAt_reverse_portMark driver _) hl
      rw [String.toList_append, String.toList_append] at hfront
      exact ⟨String.toList_injective (List.append_cancel_right hfront),
        by rw [UInt16.toNat_inj.1 hnumber]⟩

/-! ## The whole name -/

/-- What stands behind the mark of the database. -/
theorem database_inj (h : driver.Legible c) (h' : driver.Legible c')
    (he : c.database.toList ++ (driver.charsetPart c).toList =
      c'.database.toList ++ (driver.charsetPart c').toList) :
    c.database = c'.database ∧
      (driver = mySql → (tableOptions c).charset = (tableOptions c').charset) := by
  cases driver with
  | mySql =>
    have hmark : charsetMark.toList = ';' :: "charset=".toList := rfl
    have hd := h.database rfl
    have hd' := h'.database rfl
    unfold charsetPart at he
    rw [String.toList_append, String.toList_append, hmark] at he
    rw [hmark] at hd hd'
    obtain ⟨hdatabase, hcharset⟩ := Text.mark_append_inj (by decide) hd hd' he
    exact ⟨String.toList_injective hdatabase, fun _ => String.toList_injective hcharset⟩
  | sqlServer =>
    refine ⟨String.toList_injective ?_, nofun⟩
    simpa [charsetPart] using he

/-- Names of legible settings are equal exactly if the settings are. -/
theorem dsn_eq_iff (h : driver.Legible c) (h' : driver.Legible c') :
    driver.dsn c = driver.dsn c' ↔ driver.SameSource c c' := by
  constructor
  · intro he
    obtain ⟨t, hmark, hsemicolon, -, -⟩ := driver.exists_databaseMark
    have hserver := h.server
    have hserver' := h'.server
    rw [dsn_eq, dsn_eq] at he
    have hl := congrArg String.toList he
    simp only [String.toList_append, List.append_assoc, List.append_cancel_left_eq, hmark] at hl
    rw [hmark] at hserver hserver'
    obtain ⟨hs, hd⟩ := Text.mark_append_inj hsemicolon hserver hserver' hl
    obtain ⟨hhost, hport⟩ := server_inj h h' (String.toList_injective hs)
    obtain ⟨hdatabase, hcharset⟩ := database_inj h h' hd
    exact ⟨hhost, hport, hdatabase, hcharset⟩
  · rintro ⟨hhost, hport, hdatabase, hcharset⟩
    have hpart : driver.charsetPart c = driver.charsetPart c' := by
      cases driver with
      | mySql => exact congrArg (charsetMark ++ ·) (hcharset rfl)
      | sqlServer => rfl
    rw [dsn_eq, dsn_eq, server, server, hhost, hport, hdatabase, hpart]

/-- Settings without semicolons and hosts without commas are legible. -/
theorem legible_of_avoids (driver : Driver) (hhost : Text.Avoids [';', ','] c.host)
    (hdatabase : Text.Avoids [';'] c.database) : driver.Legible c where
  host := by
    obtain ⟨t, hmark, -⟩ := driver.exists_databaseMark
    intro h
    exact hhost ';' (h.subset (by rw [hmark]; exact List.mem_cons_self)) (by decide)
  port := by
    obtain ⟨x, t, hport, hx, -⟩ := driver.exists_portMark
    intro _ p h
    have hmem : x ∈ c.host.toList :=
      h.subset (by rw [String.toList_append, hport]; exact List.mem_cons_self)
    refine hhost x hmem ?_
    rcases hx with rfl | rfl <;> decide
  database := by
    intro _ h
    exact hdatabase ';' (h.subset (by decide)) (by decide)

/-! ## Settings that are read as others -/

/-- A port may be part of the host. -/
theorem dsn_port (driver : Driver) (c : ConnectionConfig) (p : UInt16) :
    driver.dsn { c with host := c.host ++ driver.portMark ++ toString p, port := none } =
      driver.dsn { c with port := some p } := by
  rw [dsn_eq, dsn_eq]
  cases driver <;> simp [server, charsetPart, tableOptions, String.append_assoc]

/-- A part of the database may be part of the host. -/
theorem dsn_database (driver : Driver) (c : ConnectionConfig) (name : String) :
    driver.dsn { c with host := driver.server c ++ driver.databaseMark ++ name, port := none } =
      driver.dsn { c with database := name ++ driver.databaseMark ++ c.database } := by
  rw [dsn_eq, dsn_eq]
  cases driver <;> simp [server, charsetPart, tableOptions, String.append_assoc]

/-- A part of the character set may be part of the database. -/
theorem dsn_charset (c : ConnectionConfig) (name charset : String) :
    mySql.dsn { c with database := c.database ++ charsetMark ++ name, charset := some charset } =
      mySql.dsn { c with charset := some (name ++ charsetMark ++ charset) } := by
  rw [dsn_eq, dsn_eq]
  simp [server, charsetPart, tableOptions, String.append_assoc]

end Driver

namespace ConnectionConfig

variable {c : ConnectionConfig} {driver : Driver}

/-- Connections with the driver of another one have equal names if the driver gives them such. -/
theorem dsn_congr {d d' : ConnectionConfig} (h : c.parseDriver = .ok driver)
    (hd : d.driver = c.driver) (hd' : d'.driver = c.driver) (he : driver.dsn d = driver.dsn d') :
    d.dsn = d'.dsn := by
  have hparse : ∀ x : ConnectionConfig, x.driver = c.driver → x.parseDriver = .ok driver := by
    intro x hx
    rw [parseDriver, hx]
    exact h
  rw [dsn_of_parse (hparse d hd), dsn_of_parse (hparse d' hd'), he]

/-- **What a data source name tells.** The name of a connection with legible settings is the name of
those legible connections of its driver that have the same host, port, database and character set.
Each of the marks may be part of a setting: a host that takes in a port or the front of the
database, and a database that takes in the front of the character set, have the name of other
settings. -/
theorem data_source_identified (h : c.parseDriver = .ok driver) :
    (driver.Legible c → ∃ s, c.dsn = .ok s ∧ ∀ c' : ConnectionConfig,
      c'.parseDriver = .ok driver → driver.Legible c' →
        (c'.dsn = .ok s ↔ driver.SameSource c c')) ∧
    (∀ p : UInt16,
      { c with host := c.host ++ driver.portMark ++ toString p, port := none }.dsn =
        { c with port := some p }.dsn) ∧
    (∀ name : String,
      { c with host := driver.server c ++ driver.databaseMark ++ name, port := none }.dsn =
        { c with database := name ++ driver.databaseMark ++ c.database }.dsn) ∧
    (driver = .mySql → ∀ name charset : String,
      { c with database := c.database ++ Driver.charsetMark ++ name,
               charset := some charset }.dsn =
        { c with charset := some (name ++ Driver.charsetMark ++ charset) }.dsn) := by
  refine ⟨fun hc => ⟨driver.dsn c, dsn_of_parse h, fun c' h' hc' => ?_⟩,
    fun p => dsn_congr h rfl rfl (driver.dsn_port c p),
    fun name => dsn_congr h rfl rfl (driver.dsn_database c name), ?_⟩
  · rw [dsn_of_parse h', Except.ok.injEq, eq_comm]
    exact Driver.dsn_eq_iff hc hc'
  · rintro rfl name charset
    exact dsn_congr h rfl rfl (Driver.dsn_charset c name charset)

/-- Settings that hold marks of other settings, none of which ends them. -/
def markedSource : ConnectionConfig where
  driver := "mysql"
  host := "db;port=1"
  port := some 3306
  database := ";dbname=app;port=2"
  charset := some "utf8;charset=x"

/-- Another connection has another name, and the same connection for another user has the same. -/
theorem markedSource_identified :
    let s := "mysql:host=db;port=1;port=3306;dbname=;dbname=app;port=2;charset=utf8;charset=x"
    let other : ConnectionConfig := { driver := "mysql", host := "db", database := "app" }
    markedSource.parseDriver = .ok .mySql ∧ Driver.mySql.Legible markedSource ∧
      Driver.mySql.Legible other ∧ markedSource.dsn = .ok s ∧ other.dsn ≠ .ok s ∧
      { markedSource with username := some "app" }.dsn = .ok s := by
  intro s other
  have hparse : markedSource.parseDriver = .ok .mySql := rfl
  have hlegible : Driver.mySql.Legible markedSource :=
    ⟨by decide +kernel, nofun, fun _ => by decide +kernel⟩
  have hother : Driver.mySql.Legible other :=
    Driver.legible_of_avoids .mySql (by decide +kernel) (by decide +kernel)
  have hname : Driver.mySql.dsn markedSource = s := by decide +kernel
  have hdsn : markedSource.dsn = .ok s := by rw [dsn_of_parse hparse, hname]
  obtain ⟨s', hs', hall⟩ := (data_source_identified hparse).1 hlegible
  obtain rfl : s = s' := Except.ok.inj (hdsn.symm.trans hs')
  refine ⟨hparse, hlegible, hother, hdsn, fun h => ?_, ?_⟩
  · have hhost := ((hall other rfl hother).1 h).host
    exact absurd hhost (by decide +kernel)
  · exact (hall _ rfl ⟨hlegible.1, hlegible.2, hlegible.3⟩).2 ⟨rfl, rfl, rfl, fun _ => rfl⟩

/-- Two servers with one name: a port that is set, and one that is written into the host. -/
theorem port_read_from_host :
    let c : ConnectionConfig := { driver := "mysql", host := "db;port=3307", database := "app" }
    let c' : ConnectionConfig :=
      { driver := "mysql", host := "db", port := some 3307, database := "app" }
    c.parseDriver = .ok .mySql ∧ c'.parseDriver = .ok .mySql ∧
      c.dsn = .ok "mysql:host=db;port=3307;dbname=app;charset=utf8mb4" ∧ c'.dsn = c.dsn ∧
      c'.host ≠ c.host ∧ c'.port ≠ c.port := by
  intro c c'
  have hparse : c.parseDriver = .ok .mySql ∧ c'.parseDriver = .ok .mySql := ⟨rfl, rfl⟩
  have hname : Driver.mySql.dsn c = "mysql:host=db;port=3307;dbname=app;charset=utf8mb4" ∧
      Driver.mySql.dsn c' = "mysql:host=db;port=3307;dbname=app;charset=utf8mb4" := by
    decide +kernel
  rw [dsn_of_parse hparse.1, dsn_of_parse hparse.2, hname.1, hname.2]
  exact ⟨hparse.1, hparse.2, rfl, rfl, by decide +kernel, by decide +kernel⟩

end ConnectionConfig

end SqlCompose
