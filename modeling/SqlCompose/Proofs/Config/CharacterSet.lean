import SqlCompose.Proofs.Blueprint.Portable
import SqlCompose.Proofs.Config.DataSource

/-!
# The character set of a connection

The data source name of a MySQL connection and every table that is created over it name one
character set, since both take it from the same settings (`ConnectionConfig.character_set_agrees`).
The collation of the tables is a setting of its own, with a default of its own, so it belongs to the
character set exactly if the two were set to fit: a configured collation must belong to it, and the
default one belongs to its own character set only (`MySql.belongs_default_iff`).
-/

namespace SqlCompose

namespace MySql

/-- A collation belongs to a character set if its name is that of the set with an underscore and
more behind it. -/
def Belongs (collation charset : String) : Prop := (charset ++ "_").toList <+: collation.toList

instance (collation charset : String) : Decidable (Belongs collation charset) :=
  inferInstanceAs (Decidable (_ <+: _))

/-- The character sets to which the default collation belongs. The naming rule knows two, of which
the server has the first. -/
theorem belongs_default_iff {charset : String} : Belongs "utf8mb4_unicode_ci" charset ↔
    charset = "utf8mb4" ∨ charset = "utf8mb4_unicode" := by
  constructor
  · intro h
    -- the name of the set ends in front of an underscore of the collation
    have hends : ∀ n < 19, ("utf8mb4_unicode_ci".toList.take n).getLast? = some '_' →
        ("utf8mb4_unicode_ci".toList.take n).dropLast = "utf8mb4".toList ∨
          ("utf8mb4_unicode_ci".toList.take n).dropLast = "utf8mb4_unicode".toList := by
      decide +kernel
    unfold Belongs at h
    have hlength := h.length_le
    have htake := List.prefix_iff_eq_take.1 h
    have hmark : "_".toList = ['_'] := rfl
    rw [String.toList_append, hmark] at hlength htake
    have hcases := hends _ (Nat.lt_succ_of_le hlength) (by rw [← htake]; simp)
    rw [← htake, List.dropLast_concat] at hcases
    rwa [String.toList_inj, String.toList_inj] at hcases
  · rintro (rfl | rfl) <;> decide +kernel

end MySql

namespace Blueprint

variable {b : Blueprint} {o : MySql.TableOptions}

/-- The statement of a new table depends on the options at its end only. -/
theorem sql_create_mySql (hmode : b.mode = .create) {s : String}
    (h : b.sql (MySql.dialect o) = .ok s) :
    ∃ body, ∀ o', b.sql (MySql.dialect o') = .ok (body ++ MySql.TableOptions.sql o') := by
  have hsql : ∀ d, b.sql d = b.createSql d := by
    intro d
    rw [sql, hmode]
  rw [hsql, createSql_eq_ok_iff] at h
  obtain ⟨hcontent, definitions, hdefinitions, -⟩ := h
  refine ⟨"CREATE TABLE " ++ b.table ++ " (\n" ++ lines definitions ++ "\n)", fun o' => ?_⟩
  rw [hsql, createSql_eq_ok_iff]
  exact ⟨hcontent, definitions, hdefinitions, rfl⟩

end Blueprint

namespace ConnectionConfig

variable {c : ConnectionConfig}

theorem parseDriver_mySql (h : c.driver = "mysql") : c.parseDriver = .ok .mySql := by
  rw [parseDriver, h]
  rfl

/-- The collation of new tables belongs to their character set if the settings fit. -/
theorem belongs_tableOptions_iff (c : ConnectionConfig) :
    MySql.Belongs (Driver.tableOptions c).collation (Driver.tableOptions c).charset ↔
      (∃ collation, c.collation = some collation ∧
        MySql.Belongs collation (Driver.tableOptions c).charset) ∨
      (c.collation = none ∧ ((Driver.tableOptions c).charset = "utf8mb4" ∨
        (Driver.tableOptions c).charset = "utf8mb4_unicode")) := by
  rw [← MySql.belongs_default_iff]
  cases hc : c.collation <;> simp [Driver.tableOptions, hc]

/-- **The character set of a connection.** The data source name of a MySQL connection ends in its
character set, and so do the options of each table that is created over it, with the collation
behind: what stands in front does not depend on the two settings. Either setting has its default.
The collation belongs to the character set exactly if a configured collation does, or none is
configured and the character set is one of the default collation. -/
theorem character_set_agrees (c : ConnectionConfig) (h : c.driver = "mysql") :
    let charset := c.charset.getD "utf8mb4"
    let collation := c.collation.getD "utf8mb4_unicode_ci"
    (∃ front, c.dsn = .ok (front ++ ";charset=" ++ charset) ∧
      ∀ set : Option String,
        { c with charset := set }.dsn = .ok (front ++ ";charset=" ++ set.getD "utf8mb4")) ∧
    (∀ (b : Blueprint) (s : String), b.mode = .create →
      b.sql (Driver.mySql.dialect c) = .ok s →
      ∃ body, s = body ++ " ENGINE=InnoDB DEFAULT CHARSET=" ++ charset ++ " COLLATE=" ++ collation ∧
        ∀ set order : Option String,
          b.sql (Driver.mySql.dialect { c with charset := set, collation := order }) =
            .ok (body ++ " ENGINE=InnoDB DEFAULT CHARSET=" ++ set.getD "utf8mb4" ++ " COLLATE=" ++
              order.getD "utf8mb4_unicode_ci")) ∧
    (MySql.Belongs collation charset ↔
      (∃ l, c.collation = some l ∧ MySql.Belongs l charset) ∨
      (c.collation = none ∧ (charset = "utf8mb4" ∨ charset = "utf8mb4_unicode"))) := by
  intro charset collation
  refine ⟨?_, fun b s hmode hs => ?_, c.belongs_tableOptions_iff⟩
  · have hdsn : ∀ set : Option String, { c with charset := set }.dsn =
        .ok (Driver.mySql.scheme ++ Driver.mySql.server c ++ Driver.mySql.databaseMark ++
          c.database ++ ";charset=" ++ set.getD "utf8mb4") := by
      intro set
      have hparse : { c with charset := set }.parseDriver = .ok .mySql := parseDriver_mySql h
      rw [dsn_of_parse hparse, Driver.dsn_eq]
      simp only [Driver.charsetPart, Driver.charsetMark, Driver.tableOptions, String.append_assoc]
      rfl
    exact ⟨_, hdsn c.charset, hdsn⟩
  · obtain ⟨body, hbody⟩ := b.sql_create_mySql hmode hs
    have hall : ∀ set order : Option String,
        b.sql (Driver.mySql.dialect { c with charset := set, collation := order }) =
          .ok (body ++ " ENGINE=InnoDB DEFAULT CHARSET=" ++ set.getD "utf8mb4" ++ " COLLATE=" ++
            order.getD "utf8mb4_unicode_ci") := by
      intro set order
      refine (hbody _).trans (congrArg Except.ok ?_)
      simp only [MySql.TableOptions.sql, Driver.tableOptions, String.append_assoc]
      rfl
    exact ⟨body, Except.ok.inj (hs.symm.trans (hall c.charset c.collation)), hall⟩

/-- A blueprint of a new table with one column. -/
def numberTable : Blueprint :=
  Blueprint.calls { mode := .create, table := "t" } [.column .integer "n" []]

/-- Settings that fit: a set whose name is the front of another one's, with a collation of its
own. -/
theorem utf8_agrees :
    let c : ConnectionConfig :=
      { driver := "mysql", database := "app", charset := some "utf8",
        collation := some "utf8_general_ci" }
    c.driver = "mysql" ∧
      numberTable.sql (Driver.mySql.dialect c) = .ok
        ("CREATE TABLE t (\n  n INT NOT NULL\n) ENGINE=InnoDB DEFAULT CHARSET=utf8 " ++
          "COLLATE=utf8_general_ci") ∧
      (∃ front, c.dsn = .ok (front ++ ";charset=" ++ "utf8")) ∧
      MySql.Belongs "utf8_general_ci" "utf8" ∧ ¬MySql.Belongs "utf8mb4_unicode_ci" "utf8" := by
  intro c
  have hsql : numberTable.sql (Driver.mySql.dialect c) = .ok
      ("CREATE TABLE t (\n  n INT NOT NULL\n) ENGINE=InnoDB DEFAULT CHARSET=utf8 " ++
        "COLLATE=utf8_general_ci") := by decide +kernel
  have hfits : MySql.Belongs "utf8_general_ci" "utf8" := by decide +kernel
  obtain ⟨⟨front, hdsn, -⟩, -, hbelongs⟩ := character_set_agrees c rfl
  exact ⟨rfl, hsql, ⟨front, hdsn⟩, hbelongs.2 (.inl ⟨_, rfl, hfits⟩), by decide +kernel⟩

/-- Settings that do not fit: a character set alone keeps the default collation, which belongs to
another set. -/
theorem latin1_unmatched :
    let c : ConnectionConfig := { driver := "mysql", database := "app", charset := some "latin1" }
    c.collation = none ∧
      numberTable.sql (Driver.mySql.dialect c) = .ok
        ("CREATE TABLE t (\n  n INT NOT NULL\n) ENGINE=InnoDB DEFAULT CHARSET=latin1 " ++
          "COLLATE=utf8mb4_unicode_ci") ∧
      ¬MySql.Belongs "utf8mb4_unicode_ci" "latin1" := by
  decide +kernel

end ConnectionConfig

end SqlCompose
