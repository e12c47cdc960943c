import SqlCompose.Value

/-!
# Statements

A statement is text with placeholders, each of which carries the value bound to it. Its SQL text
and its list of bindings are two views of the same pieces, so the `k`-th placeholder and the `k`-th
binding belong together by construction.
-/

namespace SqlCompose

/-- A piece of a statement: text that stands as it is, or a placeholder with its value. -/
inductive Piece
  | text (s : String)
  | bind (v : Value)
  deriving BEq, Inhabited

/-- The text of a piece; a placeholder is a question mark. -/
def Piece.sql : Piece → String
  | text s => s
  | bind _ => "?"

def Piece.binding? : Piece → Option Value
  | text _ => none
  | bind v => some v

def Piece.map (f : Value → Value) : Piece → Piece
  | text s => text s
  | bind v => bind (f v)

abbrev Statement := List Piece

namespace Statement

/-- The SQL text, with a question mark for each placeholder. -/
def sql (s : Statement) : String := String.join (s.map Piece.sql)

/-- The bound values in the order of their placeholders. -/
def params (s : Statement) : List Value := s.filterMap Piece.binding?

/-- The statement with every bound value replaced. -/
def mapValues (f : Value → Value) (s : Statement) : Statement := s.map (Piece.map f)

/-- Placeholders for the values, with `separator` between neighbours. -/
def placeholders (separator : String) (values : List Value) : Statement :=
  (values.map Piece.bind).intersperse (.text separator)

/-- Statements one after the other, with `separator` between neighbours. -/
def joinWith (separator : String) (parts : List Statement) : Statement :=
  [Piece.text separator].intercalate parts

/-! ## Lemmas -/

@[simp] theorem params_nil : params [] = [] := rfl

@[simp] theorem params_text (s : String) (rest : Statement) :
    params (.text s :: rest) = params rest := rfl

@[simp] theorem params_bind (v : Value) (rest : Statement) :
    params (.bind v :: rest) = v :: params rest := rfl

@[simp] theorem params_append (s t : Statement) : params (s ++ t) = params s ++ params t :=
  List.filterMap_append

@[simp] theorem params_placeholders (separator : String) (values : List Value) :
    params (placeholders separator values) = values := by
  induction values with
  | nil => rfl
  | cons v vs ih =>
    cases vs with
    | nil => rfl
    | cons w ws => simpa [placeholders] using ih

@[simp] theorem sql_nil : sql [] = "" := String.join_nil

@[simp] theorem sql_text (t : String) (rest : Statement) : sql (.text t :: rest) = t ++ sql rest :=
  String.join_cons

@[simp] theorem sql_bind (v : Value) (rest : Statement) : sql (.bind v :: rest) = "?" ++ sql rest :=
  String.join_cons

@[simp] theorem sql_append (s t : Statement) : sql (s ++ t) = sql s ++ sql t := by
  simp [sql]

theorem sql_placeholders (separator : String) (values : List Value) :
    sql (placeholders separator values) = separator.intercalate (values.map fun _ => "?") := by
  induction values with
  | nil => rfl
  | cons v vs ih =>
    cases vs with
    | nil => rfl
    | cons w ws => simpa [placeholders, String.append_assoc] using ih

theorem sql_joinWith (separator : String) (parts : List Statement) :
    sql (joinWith separator parts) = separator.intercalate (parts.map sql) := by
  induction parts with
  | nil => rfl
  | cons s parts ih =>
    cases parts with
    | nil => simp [joinWith]
    | cons t parts => simpa [joinWith, String.append_assoc] using ih

@[simp] theorem params_joinWith (separator : String) (parts : List Statement) :
    params (joinWith separator parts) = parts.flatMap params := by
  induction parts with
  | nil => rfl
  | cons s parts ih =>
    cases parts with
    | nil => simp [joinWith]
    | cons t parts => simpa [joinWith] using ih

@[simp] theorem mapValues_nil (f : Value → Value) : mapValues f [] = [] := rfl

@[simp] theorem mapValues_text (f : Value → Value) (t : String) (rest : Statement) :
    mapValues f (.text t :: rest) = .text t :: mapValues f rest := rfl

@[simp] theorem mapValues_bind (f : Value → Value) (v : Value) (rest : Statement) :
    mapValues f (.bind v :: rest) = .bind (f v) :: mapValues f rest := rfl

@[simp] theorem mapValues_append (f : Value → Value) (s t : Statement) :
    mapValues f (s ++ t) = mapValues f s ++ mapValues f t :=
  List.map_append

theorem mapValues_placeholders (f : Value → Value) (separator : String) (values : List Value) :
    mapValues f (placeholders separator values) = placeholders separator (values.map f) := by
  induction values with
  | nil => rfl
  | cons v vs ih =>
    cases vs with
    | nil => rfl
    | cons w ws => simpa [placeholders] using ih

theorem mapValues_joinWith (f : Value → Value) (separator : String) (parts : List Statement) :
    mapValues f (joinWith separator parts) = joinWith separator (parts.map (mapValues f)) := by
  induction parts with
  | nil => rfl
  | cons s parts ih =>
    cases parts with
    | nil => simp [joinWith]
    | cons t parts => simpa [joinWith] using ih

@[simp] theorem sql_mapValues (f : Value → Value) (s : Statement) :
    sql (mapValues f s) = sql s := by
  induction s with
  | nil => rfl
  | cons x s ih => cases x <;> simp [ih]

@[simp] theorem params_mapValues (f : Value → Value) (s : Statement) :
    params (mapValues f s) = (params s).map f := by
  induction s with
  | nil => rfl
  | cons x s ih => cases x <;> simp [ih]

end Statement

end SqlCompose
