import SqlCompose.Dialect.MySql
import SqlCompose.Dialect.SqlServer
import SqlCompose.Proofs.Text.Scanning

/-!
# What a server reads from the literals of its dialect

Each server of the library has its dialect and its way of reading literals (`Vendor`). A text that
the dialect quotes is the text that the server reads, and the literal ends where it was written to
end (`Vendor.literals_read_back`).
-/

namespace SqlCompose

/-- The servers of the library; MySQL has options for new tables. -/
inductive Vendor
  | mySql (options : MySql.TableOptions)
  | sqlServer

namespace Vendor

def dialect : Vendor → Dialect
  | mySql options => MySql.dialect options
  | sqlServer => SqlServer.dialect

/-- How the server reads literals. -/
def quoting : Vendor → Text.Quoting
  | mySql _ => .backslashed
  | sqlServer => .doubled

variable (v : Vendor)

theorem quote_eq : v.dialect.quote = v.quoting.write := by
  cases v <;> rfl

theorem renderDefault_eq : v.dialect.renderDefault = plainDefault v.dialect.quote := by
  cases v <;> rfl

theorem read_quote (s : String) {rest : List Char} (h : Text.NotAt (· = '\'') rest) :
    v.quoting.read ((v.dialect.quote s).toList ++ rest) = some (s, rest) := by
  rw [quote_eq]
  exact Text.Quoting.read_write s h

/-- A literal says which text it is of and where it ends. -/
theorem quote_append_inj {s s' : String} {rest rest' : List Char}
    (h : Text.NotAt (· = '\'') rest) (h' : Text.NotAt (· = '\'') rest')
    (he : (v.dialect.quote s).toList ++ rest = (v.dialect.quote s').toList ++ rest') :
    s = s' ∧ rest = rest' := by
  have hread := v.read_quote s h
  rw [he, v.read_quote s' h'] at hread
  exact Prod.mk.inj (Option.some.inj hread.symm)

theorem quote_injective : Function.Injective v.dialect.quote := by
  intro s s' h
  have hnil := Text.notAt_nil (· = '\'')
  have he : (v.dialect.quote s).toList ++ [] = (v.dialect.quote s').toList ++ [] := by rw [h]
  exact (v.quote_append_inj hnil hnil he).1

/-- **Literals are read back.** The server reads from a literal of its dialect the text that was
quoted, and stops at what stands behind, unless that begins with a quote. So a literal belongs to
one text, and no text ends its literal early or takes in what stands behind it. -/
theorem literals_read_back (v : Vendor) :
    (∀ (s : String) (rest : List Char), Text.NotAt (· = '\'') rest →
      v.quoting.read ((v.dialect.quote s).toList ++ rest) = some (s, rest)) ∧
    Function.Injective v.dialect.quote ∧
    ∀ (s s' : String) (rest rest' : List Char), Text.NotAt (· = '\'') rest →
      Text.NotAt (· = '\'') rest' →
      (v.dialect.quote s).toList ++ rest = (v.dialect.quote s').toList ++ rest' →
      s = s' ∧ rest = rest' :=
  ⟨fun s _ => v.read_quote s, v.quote_injective, fun _ _ _ _ => v.quote_append_inj⟩

/-- Quotes at both ends and side by side, NUL, a run of backslashes before a quote and one at the
end, and behind the literal another one. -/
theorem literals_read_back_hostile :
    let s := "'a''b\x00\\\\'; -- \"c\\"
    let rest := ", 'd'".toList
    Text.NotAt (· = '\'') rest ∧
      (mySql {}).dialect.quote s = "'\\'a\\'\\'b\\0\\\\\\\\\\'; -- \\\"c\\\\'" ∧
      (mySql {}).quoting.read (((mySql {}).dialect.quote s).toList ++ rest) = some (s, rest) ∧
      sqlServer.dialect.quote s = "'''a''''b\x00\\\\''; -- \"c\\'" ∧
      sqlServer.quoting.read ((sqlServer.dialect.quote s).toList ++ rest) = some (s, rest) := by
  intro s rest
  have hrest : Text.NotAt (· = '\'') rest := Text.notAt_cons (by decide) _
  exact ⟨hrest, by decide +kernel, (literals_read_back (mySql {})).1 s rest hrest,
    by decide +kernel, (literals_read_back sqlServer).1 s rest hrest⟩

end Vendor

end SqlCompose
