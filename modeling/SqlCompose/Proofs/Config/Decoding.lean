import SqlCompose.Config.Reader
import SqlCompose.Proofs.Json.Objects
import SqlCompose.Proofs.Manager.Connecting

/-!
# Configuration documents

`DatabaseConfig.Document` says which texts are documents of a configuration, whatever the order of
their members, the name of the maintenance mode, the defaults that are left out and the members that
are none of ours. Each of them is read as the configuration, and what is read has its default
connection (`document_decodes`).
-/

namespace SqlCompose

namespace ConnectionConfig

/-- The names of a setting. The maintenance mode has three. -/
def Field.names : Field → List String
  | driver => ["driver"]
  | host => ["host"]
  | port => ["port"]
  | database => ["database"]
  | username => ["username"]
  | password => ["password"]
  | charset => ["charset"]
  | collation => ["collation"]
  | maintenanceMode => ["maintenance_mode", "maintenanceMode", "maintanceMode"]

/-- How the settings of a connection are written. All but the driver may be left out if they are the
defaults. -/
def form (c : ConnectionConfig) : Json.RecordForm Field where
  names := Field.names
  value
    | .driver => Json.Literal c.driver
    | .host => Json.Literal c.host
    | .port => Json.OptionForm Json.Natural (c.port.map UInt16.toNat)
    | .database => Json.Literal c.database
    | .username => Json.OptionForm Json.Literal c.username
    | .password => Json.OptionForm Json.Literal c.password
    | .charset => Json.OptionForm Json.Literal c.charset
    | .collation => Json.OptionForm Json.Literal c.collation
    | .maintenanceMode => Json.BoolForm c.maintenanceMode
  optional
    | .driver => False
    | .host => c.host = "localhost"
    | .port => c.port = none
    | .database => c.database = ""
    | .username => c.username = none
    | .password => c.password = none
    | .charset => c.charset = none
    | .collation => c.collation = none
    | .maintenanceMode => c.maintenanceMode = false

/-- The other connection with one field of this one. -/
def give (c : ConnectionConfig) : Field → ConnectionConfig → ConnectionConfig
  | .driver, d => { d with driver := c.driver }
  | .host, d => { d with host := c.host }
  | .port, d => { d with port := c.port }
  | .database, d => { d with database := c.database }
  | .username, d => { d with username := c.username }
  | .password, d => { d with password := c.password }
  | .charset, d => { d with charset := c.charset }
  | .collation, d => { d with collation := c.collation }
  | .maintenanceMode, d => { d with maintenanceMode := c.maintenanceMode }

/-- A connection to which no field makes a difference is the same. -/
theorem eq_of_give {c d : ConnectionConfig} (h : ∀ i, c.give i d = d) : d = c := by
  have hall : Field.all.foldl (fun d i => c.give i d) d = c := by
    simp only [Field.all, List.foldl_cons, List.foldl_nil, give]
  simpa only [Field.all, List.foldl_cons, List.foldl_nil, h] using hall

theorem named_eq_some_iff {name : String} {i : Field} :
    Field.named name = some i ↔ name ∈ i.names := by
  constructor
  · intro h
    unfold Field.named at h
    split at h <;> cases h <;> decide
  · intro h
    cases i <;> simp only [Field.names, List.mem_cons, List.not_mem_nil, or_false] at h
    case maintenanceMode =>
      obtain rfl | rfl | rfl := h <;> rfl
    all_goals
      subst h
      rfl

variable {c d : ConnectionConfig} {g t v rest : List Char}

theorem read_field {i : Field} (hg : Json.Gap g) (hv : c.form.value i v) (hrest : Json.Stops rest) :
    Field.read i d (g ++ (v ++ rest)) = .ok (c.give i d, rest) := by
  cases i with
  | driver | host | database =>
    rw [Field.read, Json.readText_literal hg hv]
    rfl
  | username | password | charset | collation =>
    rw [Field.read, Json.readOptional_literal hg hv]
    rfl
  | maintenanceMode =>
    rw [Field.read, Json.readBool_literal hg hv]
    rfl
  | port =>
    have hbound : ∀ n, c.port.map UInt16.toNat = some n → n < UInt16.size := by
      intro n hn
      obtain ⟨p, -, rfl⟩ := Option.map_eq_some_iff.1 hn
      exact p.toNat_lt
    have hport : (c.port.map UInt16.toNat).map UInt16.ofNat = c.port := by
      cases c.port with
      | none => rfl
      | some p => exact congrArg some UInt16.ofNat_toNat
    rw [Field.read, Json.readOptional_natural hg hbound (by decide) hv hrest, ok_bind_eq]
    show Except.ok ({ d with port := (c.port.map UInt16.toNat).map UInt16.ofNat }, rest) = _
    rw [hport]
    rfl

theorem decodes_form (c : ConnectionConfig) : record.Decodes c.form c.give where
  named := named_eq_some_iff
  read := read_field
  idem i d := by cases i <;> rfl
  comm i j d := by cases i <;> cases j <;> rfl

/-- A connection is read from each of its forms. -/
theorem read_writes (hg : Json.Gap g) (ht : c.form.Writes t) (rest : List Char) :
    ConnectionConfig.read (g ++ (t ++ rest)) = .ok (c, rest) := by
  refine Json.Record.parse_writes (decodes_form c) ?_ ?_ (fun d => eq_of_give) hg ht
  · intro i hi
    obtain rfl := List.mem_singleton.1 hi
    exact id
  · intro i hi
    cases i with
    | driver => exact hi.elim
    | _ =>
      have hdefault := hi
      simp only [form] at hdefault
      simp [give, hdefault]

end ConnectionConfig

/-! ## Connections -/

namespace Connections

/-- A new name adds an entry to the others. -/
theorem insertSorted_perm {name : String} {c : ConnectionConfig}
    {es : List (String × ConnectionConfig)} (h : name ∉ es.map Prod.fst) :
    (insertSorted name c es).Perm ((name, c) :: es) := by
  induction es with
  | nil => exact .refl _
  | cons e es ih =>
    obtain ⟨other, d⟩ := e
    rw [List.map_cons, List.mem_cons, not_or] at h
    unfold insertSorted
    rw [if_neg h.1]
    split
    · exact .refl _
    · exact ((ih h.2).cons _).trans (.swap ..)

/-- Connections are known by their entries in any order. -/
theorem eq_of_perm {a b : Connections} (h : a.entries.Perm b.entries) : a = b := by
  have hsorted : ∀ a : Connections, a.entries.Pairwise fun x y => x.1 < y.1 :=
    fun a => List.pairwise_map.1 a.sorted
  have hentries : a.entries = b.entries := by
    refine h.eq_of_pairwise (fun x y _ _ hxy hyx => ?_) (hsorted a) (hsorted b)
    exact absurd (String.lt_trans hxy hyx) (String.lt_irrefl _)
  cases a
  cases b
  subst hentries
  rfl

/-- What was inserted are the entries, in whatever order, if the names are different. -/
theorem foldl_insert_perm {es : List (String × ConnectionConfig)} {a : Connections}
    (h : ((es ++ a.entries).map Prod.fst).Nodup) :
    (es.foldl (fun a e => a.insert e.1 e.2) a).entries.Perm (es ++ a.entries) := by
  induction es generalizing a with
  | nil => exact .refl _
  | cons e es ih =>
    have hfresh : e.1 ∉ a.entries.map Prod.fst := by
      intro hmem
      have hlater : e.1 ∈ (es ++ a.entries).map Prod.fst := by
        rw [List.map_append]
        exact List.mem_append_right _ hmem
      exact (List.nodup_cons.1 h).1 hlater
    have hinsert : (a.insert e.1 e.2).entries.Perm (e :: a.entries) := insertSorted_perm hfresh
    have hmiddle : (es ++ (a.insert e.1 e.2).entries).Perm (e :: es ++ a.entries) :=
      (hinsert.append_left es).trans List.perm_middle
    have hnodup : ((es ++ (a.insert e.1 e.2).entries).map Prod.fst).Nodup :=
      (hmiddle.map Prod.fst).nodup_iff.2 h
    exact (ih hnodup).trans hmiddle

theorem nodup_names (a : Connections) : (a.entries.map Prod.fst).Nodup :=
  a.sorted.imp String.ne_of_lt

/-- Connections are put together from their entries in any order. -/
theorem foldl_insert_eq {es : List (String × ConnectionConfig)} {a : Connections}
    (h : es.Perm a.entries) : es.foldl (fun a e => a.insert e.1 e.2) empty = a := by
  have hnodup : ((es ++ empty.entries).map Prod.fst).Nodup := by
    rw [empty, List.append_nil]
    exact (h.map Prod.fst).nodup_iff.2 a.nodup_names
  have hperm := foldl_insert_perm hnodup
  rw [empty, List.append_nil] at hperm
  exact eq_of_perm (hperm.trans h)

theorem get?_isSome_iff {a : Connections} {name : String} :
    (a.get? name).isSome = true ↔ name ∈ a.entries.map Prod.fst := by
  unfold get?
  rw [Option.isSome_map, List.find?_isSome, List.mem_map]
  simp only [decide_eq_true_eq]

end Connections

/-! ## Documents -/

namespace DatabaseConfig

/-- How a configuration is written: its connections as an object, in any order. -/
def form (d : DatabaseConfig) : Json.RecordForm Field where
  names
    | .default => ["default"]
    | .connections => ["connections"]
  value
    | .default => Json.Literal d.default
    | .connections => fun t => ∃ es : List (String × ConnectionConfig),
      es.Perm d.connections.entries ∧ Json.ObjectForm Prod.fst (fun e => e.2.form.Writes) es t
  optional
    | .default => False
    | .connections => d.connections = .empty

/-- The text is a document of the configuration. -/
inductive Document (d : DatabaseConfig) : String → Prop
  | mk {g₁ t g₂ : List Char} (hg₁ : Json.Gap g₁) (ht : d.form.Writes t) (hg₂ : Json.Gap g₂) :
    Document d (String.ofList (g₁ ++ (t ++ g₂)))

variable {d : DatabaseConfig} {g t rest : List Char}

theorem readMap_connections (hg : Json.Gap g) (ht : d.form.value .connections t)
    (rest : List Char) :
    Json.readMap Field.readConnection .empty (g ++ (t ++ rest)) = .ok (d.connections, rest) := by
  obtain ⟨es, hperm, hobject⟩ := ht
  let P := fun (es : List (String × ConnectionConfig)) (a : Connections) =>
    es.foldl (fun a e => a.insert e.1 e.2) a = d.connections
  have hentry : ∀ {e es a g v rest}, P (e :: es) a → Json.Gap g → e.2.form.Writes v →
      Json.Stops rest → ∃ a', Field.readConnection e.1 a (g ++ (v ++ rest)) = .ok (a', rest) ∧
        P es a' := by
    intro e es a g v rest h hg hv _
    refine ⟨a.insert e.1 e.2, ?_, h⟩
    rw [Field.readConnection, ConnectionConfig.read_writes hg hv]
    rfl
  obtain ⟨a, hread, ha⟩ := Json.readMap_object hentry hg hobject (Connections.foldl_insert_eq hperm)
  rw [hread]
  exact congrArg (fun a => Except.ok (a, rest)) ha

/-- The other configuration with one field of this one. -/
def give (d : DatabaseConfig) : Field → DatabaseConfig → DatabaseConfig
  | .default, e => { e with default := d.default }
  | .connections, e => { e with connections := d.connections }

theorem decodes_form (d : DatabaseConfig) : record.Decodes d.form d.give where
  named {name i} := by
    constructor
    · intro h
      unfold record Field.named at h
      dsimp only at h
      split at h <;> cases h <;> exact List.mem_cons_self
    · intro h
      cases i with
      | default | connections =>
        obtain rfl := List.mem_singleton.1 h
        rfl
  read {i e g v rest} hg hv _ := by
    cases i with
    | default =>
      show (Json.readText (g ++ (v ++ rest)) >>= _) = _
      rw [Json.readText_literal hg hv]
      rfl
    | connections =>
      show (Json.readMap Field.readConnection .empty (g ++ (v ++ rest)) >>= _) = _
      rw [readMap_connections hg hv]
      rfl
  idem i e := by cases i <;> rfl
  comm i j e := by cases i <;> cases j <;> rfl

theorem readDocument_document {text : String} (h : d.Document text) :
    readDocument text.toList = .ok d := by
  cases h with
  | @mk g₁ t g₂ hg₁ ht hg₂ =>
    have hread : record.parse [.default] { default := "" } (g₁ ++ (t ++ g₂)) = .ok (d, g₂) := by
      refine Json.Record.parse_writes (decodes_form d) ?_ ?_ ?_ hg₁ ht
      · intro i hi
        obtain rfl := List.mem_singleton.1 hi
        exact id
      · intro i hi
        cases i with
        | default => exact hi.elim
        | connections => exact congrArg (DatabaseConfig.mk "") hi
      · intro e he
        calc
          e = d.give .connections (d.give .default e) := by rw [he, he]
          _ = d := rfl
    have hend : Json.readEnd g₂ = .ok () := by
      have hskip := Json.skipSpace_gap hg₂ []
      rw [List.append_nil] at hskip
      rw [Json.readEnd, hskip]
      rfl
    rw [String.toList_ofList, readDocument, hread, ok_bind_eq]
    dsimp only
    rw [hend]
    rfl

/-- What is read has its default connection. -/
theorem default_mem_of_ofText {text : String} (h : ofText text = .ok d) :
    d.default ∈ d.connections.entries.map Prod.fst := by
  unfold ofText at h
  obtain ⟨e, -, h⟩ := bind_eq_ok_iff.1 h
  obtain ⟨⟨⟩, hvalid, h⟩ := bind_eq_ok_iff.1 h
  obtain rfl := pure_eq_ok_iff.1 h
  unfold validate at hvalid
  split at hvalid
  · next hc => exact Connections.get?_isSome_iff.1 (by rw [hc]; rfl)
  · cases hvalid

theorem ofText_document {text : String} (hdefault : d.default ∈ d.connections.entries.map Prod.fst)
    (h : d.Document text) : ofText text = .ok d := by
  obtain ⟨c, hc⟩ := Option.isSome_iff_exists.1 (Connections.get?_isSome_iff.2 hdefault)
  have hvalid : d.validate = .ok () := by
    unfold validate
    rw [hc]
  unfold ofText
  rw [readDocument_document h]
  show (d.validate >>= _) = _
  rw [hvalid]
  rfl

/-- **Documents are read faithfully.** Every document of a configuration with its default connection
is read as the configuration. What is read has its default connection, so that a manager with it
does not find its default connection unknown: only the connector can say so. -/
theorem document_decodes :
    (∀ (d : DatabaseConfig) (text : String), d.default ∈ d.connections.entries.map Prod.fst →
      d.Document text → ofText text = .ok d) ∧
    ∀ (text : String) (d : DatabaseConfig), ofText text = .ok d →
      d.default ∈ d.connections.entries.map Prod.fst ∧
      ∀ {σ : Type} (g : Manager (StateM σ)) (connector : Connector (StateM σ)) (s s' : σ)
        (name : String), g.config = d →
        StateT.run (ExceptT.run (g.connect connector)) s = (.error (.unknownConnection name), s') →
        ∃ c dsn, StateT.run (ExceptT.run (connector c dsn)) s =
          (.error (.unknownConnection name), s') := by
  refine ⟨fun d text => ofText_document, fun text d h => ?_⟩
  have hdefault := default_mem_of_ofText h
  refine ⟨hdefault, ?_⟩
  rintro σ g connector s s' name rfl hconnect
  obtain ⟨c, hc⟩ := Option.isSome_iff_exists.1 (Connections.get?_isSome_iff.2 hdefault)
  exact ⟨c, Manager.connect_unknown hc hconnect⟩

def guardedConnection : ConnectionConfig := { driver := "mysql", maintenanceMode := true }

def openConnection : ConnectionConfig := { driver := "sqlsrv" }

/-- A connection under maintenance and another one, which is the default. -/
def twoConnections : DatabaseConfig where
  default := "n"
  connections := (Connections.empty.insert "m" guardedConnection).insert "n" openConnection

def guardedText : String :=
  "\x7b\"maintanceMode\":true,\"driver\":\"my\\u0073ql\"\x7d"

def openText : String := "\x7b\"driver\":\"sqlsrv\"\x7d"

/-- A document that says the default last, has the connections out of order, spells a driver with an
escape, uses the third name of the maintenance mode and has a member that is none of ours. -/
def twoConnectionsText : String :=
  "\x7b\"x\": -1e3,\"connections\":\x7b\"n\":" ++ openText ++ ",\"m\":" ++ guardedText ++
    "\x7d,\"default\":\"n\"\x7d"

theorem openText_writes : openConnection.form.Writes openText.toList := by
  have hdriver : openConnection.form.MemberValue "driver" "\"sqlsrv\"".toList :=
    .inl ⟨.driver, by decide, Json.literal_plain rfl⟩
  have hobject : Json.ObjectForm id openConnection.form.MemberValue ["driver"] openText.toList :=
    .members (Json.memberForm_plain rfl hdriver) (.close Json.gap_nil)
  refine ⟨["driver"], hobject, List.pairwise_singleton .., fun i hi => ?_⟩
  cases i with
  | driver => exact absurd (hi "driver" (by decide)) (by decide)
  | _ => rfl

theorem guardedText_writes : guardedConnection.form.Writes guardedText.toList := by
  have hdriver : Json.Literal "mysql" "\"my\\u0073ql\"".toList := by
    have hs : Json.HexFour ['0', '0', '7', '3'] 's'.toNat :=
      .mk (i := 0) (j := 0) (k := 7) (l := 3) (by decide) (by decide) (by decide) (by decide)
    have hspells : Json.Spells "my\\u0073ql".toList "mysql".toList :=
      .cons (Json.spellsChar_plain (c := 'm') rfl) <|
        .cons (Json.spellsChar_plain (c := 'y') rfl) <|
          .cons (.unicode hs) <|
            .cons (Json.spellsChar_plain (c := 'q') rfl) <|
              .cons (Json.spellsChar_plain (c := 'l') rfl) .nil
    exact .mk hspells
  have hflag : guardedConnection.form.MemberValue "maintanceMode" "true".toList :=
    .inl ⟨.maintenanceMode, by decide, .true⟩
  have hname : guardedConnection.form.MemberValue "driver" "\"my\\u0073ql\"".toList :=
    .inl ⟨.driver, by decide, hdriver⟩
  have hobject : Json.ObjectForm id guardedConnection.form.MemberValue
      ["maintanceMode", "driver"] guardedText.toList :=
    .members (Json.memberForm_plain rfl hflag)
      (.member Json.gap_nil (Json.memberForm_plain rfl hname) (.close Json.gap_nil))
  refine ⟨["maintanceMode", "driver"], hobject, ?_, fun i hi => ?_⟩
  · refine List.pairwise_pair.2 fun i => ?_
    cases i <;> decide
  · cases i with
    | driver => exact absurd (hi "driver" (by decide)) (by decide)
    | maintenanceMode => exact absurd (hi "maintanceMode" (by decide)) (by decide)
    | _ => rfl

theorem twoConnections_document : twoConnections.Document twoConnectionsText := by
  have hwhole : Json.Whole ['1'] := .positive (by decide) ⟨by decide, List.all_eq_true.1 rfl⟩
  have hexponent : Json.Exponent ['e', '3'] :=
    @Json.Exponent.some 'e' [] ['3'] (.inl rfl) (by decide) ⟨by decide, List.all_eq_true.1 rfl⟩
  have hnumber : Json.Number "-1e3".toList :=
    @Json.Number.mk ['-'] ['1'] [] ['e', '3'] (by decide) hwhole .none hexponent
  have hextra : twoConnections.form.MemberValue "x" "-1e3".toList :=
    .inr ⟨fun i => by cases i <;> decide, .number hnumber⟩
  have hentries : Json.ObjectForm Prod.fst (fun e : String × ConnectionConfig => e.2.form.Writes)
      [("n", openConnection), ("m", guardedConnection)] _ :=
    .members (Json.memberForm_plain rfl openText_writes)
      (.member Json.gap_nil (Json.memberForm_plain rfl guardedText_writes)
        (.close Json.gap_nil))
  have hconnections : twoConnections.form.MemberValue "connections" _ :=
    .inl ⟨.connections, by decide, _, .swap .., hentries⟩
  have hdefault : twoConnections.form.MemberValue "default" "\"n\"".toList :=
    .inl ⟨.default, by decide, Json.literal_plain rfl⟩
  have hgap : Json.Gap [' '] := by simp [Json.Gap]
  have hobject : Json.ObjectForm id twoConnections.form.MemberValue
      ["x", "connections", "default"] _ := .members
    (.mk Json.gap_nil (Json.literal_plain rfl) Json.gap_nil hgap hextra)
    (.member Json.gap_nil (Json.memberForm_plain rfl hconnections)
      (.member Json.gap_nil (Json.memberForm_plain rfl hdefault) (.close Json.gap_nil)))
  have hwrites : ∀ {t}, Json.ObjectForm id twoConnections.form.MemberValue
      ["x", "connections", "default"] t → twoConnections.form.Writes t := by
    intro t ht
    refine ⟨["x", "connections", "default"], ht, ?_, fun i hi => ?_⟩
    · simp only [List.pairwise_cons, List.mem_cons, List.not_mem_nil, or_false, forall_eq_or_imp,
        forall_eq, List.Pairwise.nil, and_true, false_implies, implies_true]
      refine ⟨⟨fun i => ?_, fun i => ?_⟩, fun i => ?_⟩ <;> cases i <;> decide
    · cases i with
      | default => exact absurd (hi "default" (by decide)) (by decide)
      | connections => exact absurd (hi "connections" (by decide)) (by decide)
  have hdocument := Document.mk Json.gap_nil (hwrites hobject) Json.gap_nil
  refine cast (congrArg twoConnections.Document ?_) hdocument
  decide +kernel

/-- The document is read, and where the connector does not know the connection it is the connector
that says so. -/
theorem twoConnections_decodes :
    twoConnections.default ∈ twoConnections.connections.entries.map Prod.fst ∧
      twoConnections.Document twoConnectionsText ∧
      ofText twoConnectionsText = .ok twoConnections ∧
      ∃ c dsn, StateT.run (ExceptT.run ((fun _ _ => throw (.unknownConnection "n") :
        Connector (StateM Unit)) c dsn)) () = (.error (.unknownConnection "n"), ()) := by
  have hdefault : twoConnections.default ∈ twoConnections.connections.entries.map Prod.fst := by
    decide
  have hread : ofText twoConnectionsText = .ok twoConnections :=
    document_decodes.1 twoConnections twoConnectionsText hdefault twoConnections_document
  refine ⟨hdefault, twoConnections_document, hread, ?_⟩
  exact (document_decodes.2 twoConnectionsText twoConnections hread).2
    { config := twoConnections } (fun _ _ => throw (.unknownConnection "n")) () () "n" rfl rfl

end DatabaseConfig

end SqlCompose
