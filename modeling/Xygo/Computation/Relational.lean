import Mathlib.Data.List.Perm.Basic
import Xygo.Computation.Triple

/-!
# Statements on a relational database

Tables of rows under a schema of constraints, and what the statements of a client do with them:
`INSERT` with its three ways to meet a conflict, `UPDATE` and `SELECT`. A statement whose column
list and value list differ in length is rejected, as is one bound to another number of parameters
than it has placeholders, and one whose row breaks a constraint; a rejected statement changes
nothing. Documents, the values of a JSON column, are of any type.
-/

set_option autoImplicit false

namespace Xygo.Computation.Relational

/-- What a column of a row holds. -/
inductive Cell (δ : Type)
  | null
  | text (value : String)
  | integer (value : Int)
  | boolean (value : Bool)
  | document (value : δ)

namespace Cell

variable {δ : Type}

def isNull : Cell δ → Bool
  | null => true
  | _ => false

/-- Equality of SQL: `NULL` is equal to nothing. -/
def same : Cell δ → Cell δ → Bool
  | text a, text b => a = b
  | integer a, integer b => a = b
  | boolean a, boolean b => a = b
  | _, _ => false

@[simp] theorem same_text (a b : String) : (text a : Cell δ).same (text b) = decide (a = b) := rfl

@[simp] theorem same_null (a : Cell δ) : a.same null = false := by
  cases a <;> rfl

theorem same_comm (a b : Cell δ) : a.same b = b.same a := by
  cases a <;> cases b <;> simp [same, eq_comm]

theorem same_trans {a b c : Cell δ} (hab : a.same b = true) (hbc : b.same c = true) :
    a.same c = true := by
  cases a <;> cases b <;> cases c <;> simp_all [same]

/-- Only a text is equal to a text. -/
theorem same_text_iff {a : Cell δ} {b : String} : a.same (text b) = true ↔ a = text b := by
  cases a <;> simp [same]

/-- A nullable text. -/
def ofOption : Option String → Cell δ
  | some value => text value
  | none => null

end Cell

/-- A row: the value of each column. -/
abbrev Row (κ δ : Type) : Type := κ → Cell δ

/-- The rows of each table. -/
abbrev Database (τ κ δ : Type) : Type := τ → List (Row κ δ)

/-- A foreign key: the columns, and the columns of a table they refer to. -/
structure Reference (τ κ : Type) where
  columns : List κ
  table : τ
  targets : List κ

/-- The constraints of every table. -/
structure Schema (τ κ δ : Type) where
  columns : τ → List κ
  required : τ → List κ
  default : τ → κ → Cell δ := fun _ _ => .null
  unique : τ → List (List κ)
  references : τ → List (Reference τ κ) := fun _ => []
  check : τ → Row κ δ → Bool := fun _ _ => true

/-- Why a statement is rejected. -/
inductive Rejection
  | columnCount
  | parameterCount
  | parameterValue
  | unknownColumn
  | notNull
  | check
  | size
  | unique
  | foreignKey
  deriving DecidableEq, Repr

/-- A database server: the schema, which values it can bind to a parameter, which rows it has
room for, and the error it answers a rejected statement with. -/
structure Server (ε τ κ δ : Type) where
  schema : Schema τ κ δ
  binds : Cell δ → Bool
  fits : τ → Row κ δ → Bool
  reject : Rejection → ε

/-- A value of a statement: the placeholder `$n`, or a literal. -/
inductive Value (δ : Type)
  | parameter (n : Nat)
  | literal (cell : Cell δ)

namespace Value

variable {δ : Type}

/-- The value under the bound parameters. -/
def eval (params : List (Cell δ)) : Value δ → Cell δ
  | parameter n => params.getD (n - 1) .null
  | literal cell => cell

/-- The number of the placeholder. -/
def placeholder : Value δ → Nat
  | parameter n => n
  | literal _ => 0

/-- `$first` to `$last`. -/
def parameters (first count : Nat) : List (Value δ) :=
  (List.range' first count).map parameter

end Value

/-- The number of parameters the values ask for. -/
def placeholders {δ : Type} (values : List (Value δ)) : Nat :=
  (values.map Value.placeholder).foldr max 0

/-- What an `INSERT` does with a row that agrees with a stored one on some columns: reject it, skip
it, or overwrite columns of the stored row. -/
inductive Conflict (κ : Type)
  | reject
  | skip (target : List κ)
  | overwrite (target assigned : List κ)

/-- An `INSERT` statement. -/
structure Insert (τ κ δ : Type) where
  table : τ
  columns : List κ
  values : List (Value δ)
  onConflict : Conflict κ := .reject

section

variable {ε τ κ δ : Type} [DecidableEq τ] [DecidableEq κ]

/-- Whether two rows agree on columns. -/
def agree (columns : List κ) (a b : Row κ δ) : Bool :=
  columns.all fun column => (a column).same (b column)

/-- Whether a row meets the conditions of a `WHERE` clause. -/
def selects (conditions : List (κ × Cell δ)) (row : Row κ δ) : Bool :=
  conditions.all fun condition => (row condition.1).same condition.2

/-- Whether the row a foreign key refers to is there; a key with a `NULL` refers to none. -/
def Reference.resolves (reference : Reference τ κ) (db : Database τ κ δ) (row : Row κ δ) : Bool :=
  (reference.columns.any fun column => (row column).isNull) ||
    (db reference.table).any fun target =>
      (reference.columns.zip reference.targets).all fun pair =>
        (row pair.1).same (target pair.2)

/-- A row with some columns assigned. -/
def assign (assignments : List (κ × Cell δ)) (row : Row κ δ) : Row κ δ := fun column =>
  (assignments.lookup column).getD (row column)

/-- A stored row with the assigned columns of a new one. -/
def merge (assigned : List κ) (row stored : Row κ δ) : Row κ δ := fun column =>
  if column ∈ assigned then row column else stored column

/-- The row an `INSERT` makes. -/
def Insert.row (schema : Schema τ κ δ) (statement : Insert τ κ δ) (params : List (Cell δ)) :
    Row κ δ := fun column =>
  ((statement.columns.zip (statement.values.map (Value.eval params))).lookup column).getD
    (schema.default statement.table column)

/-- Every row of a database is in another one. -/
def Grows (db db' : Database τ κ δ) : Prop := ∀ table, ∀ row ∈ db table, row ∈ db' table

omit [DecidableEq τ] [DecidableEq κ] in
theorem Grows.refl (db : Database τ κ δ) : Grows db db := fun _ _ hrow => hrow

omit [DecidableEq τ] [DecidableEq κ] in
theorem Grows.trans {a b c : Database τ κ δ} (hab : Grows a b) (hbc : Grows b c) : Grows a c :=
  fun table row hrow => hbc table row (hab table row hrow)

omit [DecidableEq κ] in
/-- Appending a row to a table. -/
theorem grows_append (db : Database τ κ δ) (table : τ) (row : Row κ δ) :
    Grows db (Function.update db table (db table ++ [row])) := by
  intro other stored hstored
  by_cases h : other = table
  · subst h
    rw [Function.update_self]
    exact List.mem_append_left _ hstored
  · rw [Function.update_of_ne h]
    exact hstored

omit [DecidableEq κ] in
theorem mem_append_self (db : Database τ κ δ) (table : τ) (row : Row κ δ) :
    row ∈ Function.update db table (db table ++ [row]) table := by
  simp

omit [DecidableEq κ] in
/-- The rows of a table a row was appended to. -/
theorem mem_update_append {db : Database τ κ δ} {table : τ} {row stored : Row κ δ} :
    stored ∈ Function.update db table (db table ++ [row]) table ↔
      stored ∈ db table ∨ stored = row := by
  simp

/-- A property that stays when rows are added. -/
def Lasting (I : Database τ κ δ → Prop) : Prop := ∀ db db', Grows db db' → I db → I db'

omit [DecidableEq τ] [DecidableEq κ] in
theorem Lasting.and {I J : Database τ κ δ → Prop} (hI : Lasting I) (hJ : Lasting J) :
    Lasting fun db => I db ∧ J db :=
  fun db db' hgrows h => ⟨hI db db' hgrows h.1, hJ db db' hgrows h.2⟩

omit [DecidableEq τ] [DecidableEq κ] in
theorem lasting_true : Lasting (fun _ : Database τ κ δ => True) := fun _ _ _ _ => trivial

omit [DecidableEq τ] [DecidableEq κ] in
/-- A stored row stays stored. -/
theorem lasting_mem (table : τ) (p : Row κ δ → Prop) :
    Lasting fun db : Database τ κ δ => ∃ row ∈ db table, p row := by
  rintro db db' hgrows ⟨row, hrow, hp⟩
  exact ⟨row, hgrows table row hrow, hp⟩

/-- A property that stays when a row is added to a table. -/
def StableAt (table : τ) (I : Database τ κ δ → Prop) : Prop :=
  ∀ db row, I db → I (Function.update db table (db table ++ [row]))

omit [DecidableEq κ] in
theorem Lasting.stableAt {I : Database τ κ δ → Prop} (hI : Lasting I) (table : τ) :
    StableAt table I :=
  fun db row hdb => hI db _ (grows_append db table row) hdb

omit [DecidableEq κ] in
theorem StableAt.and {I J : Database τ κ δ → Prop} {table : τ} (hI : StableAt table I)
    (hJ : StableAt table J) : StableAt table fun db => I db ∧ J db :=
  fun db row hdb => ⟨hI db row hdb.1, hJ db row hdb.2⟩

omit [DecidableEq κ] in
/-- A property of one table stays when a row is added to another one. -/
theorem stableAt_of_ne {table other : τ} (hne : other ≠ table) (p : List (Row κ δ) → Prop) :
    StableAt table fun db => p (db other) := by
  intro db row hdb
  rwa [Function.update_of_ne hne]

omit [DecidableEq τ] in
/-- The rows an `UPDATE` that keeps its own condition selects, after it. -/
theorem filter_assigned {assignments conditions : List (κ × Cell δ)}
    (h : ∀ row : Row κ δ, selects conditions (assign assignments row) = selects conditions row)
    (rows : List (Row κ δ)) :
    (rows.map fun row => if selects conditions row then assign assignments row else row).filter
        (selects conditions) =
      (rows.filter (selects conditions)).map (assign assignments) := by
  induction rows with
  | nil => rfl
  | cons row rows ih =>
    rw [List.map_cons]
    cases hrow : selects conditions row with
    | true =>
      rw [if_pos rfl, List.filter_cons_of_pos ((h row).trans hrow), List.filter_cons_of_pos hrow,
        List.map_cons, ih]
    | false =>
      rw [if_neg Bool.false_ne_true, List.filter_cons_of_neg (by simp [hrow]),
        List.filter_cons_of_neg (by simp [hrow]), ih]

namespace Server

variable (S : Server ε τ κ δ)

/-- The constraint a row breaks beside the other rows of its table. -/
def refusal (db : Database τ κ δ) (table : τ) (others : List (Row κ δ)) (row : Row κ δ) :
    Option Rejection :=
  if (S.schema.required table).any fun column => (row column).isNull then some .notNull
  else if !S.schema.check table row then some .check
  else if !S.fits table row then some .size
  else if (S.schema.unique table).any fun key => others.any (agree key row) then some .unique
  else if !(S.schema.references table).all fun reference => reference.resolves db row then
    some .foreignKey
  else none

/-- What is wrong with an `INSERT` before a row is made. -/
def malformed (statement : Insert τ κ δ) (params : List (Cell δ)) : Option Rejection :=
  if statement.columns.length ≠ statement.values.length then some .columnCount
  else if params.length ≠ placeholders statement.values then some .parameterCount
  else if !params.all S.binds then some .parameterValue
  else if !statement.columns.all fun column => column ∈ S.schema.columns statement.table then
    some .unknownColumn
  else none

/-- Write the rows of a table, unless a row is refused. -/
def write (table : τ) (refused : Option Rejection) (rows : List (Row κ δ)) :
    Effect ε (Database τ κ δ) Unit :=
  match refused with
  | some rejection => throw (S.reject rejection)
  | none => modify fun db => Function.update db table rows

/-- `INSERT INTO … VALUES … RETURNING`: the row, unless it was skipped. -/
def insert (statement : Insert τ κ δ) (params : List (Cell δ)) :
    Effect ε (Database τ κ δ) (Option (Row κ δ)) := do
  match S.malformed statement params with
  | some rejection => throw (S.reject rejection)
  | none =>
    let db ← get
    let table := statement.table
    let row := statement.row S.schema params
    match statement.onConflict with
    | .reject =>
      S.write table (S.refusal db table (db table) row) (db table ++ [row])
      return some row
    | .skip target =>
      if (db table).any (agree target row) then return none
      S.write table (S.refusal db table (db table) row) (db table ++ [row])
      return some row
    | .overwrite target assigned =>
      match (db table).findIdx? (agree target row) with
      | none =>
        S.write table (S.refusal db table (db table) row) (db table ++ [row])
        return some row
      | some i =>
        let merged := merge assigned row ((db table).getD i row)
        S.write table (S.refusal db table ((db table).eraseIdx i) merged) ((db table).set i merged)
        return some merged

/-- `UPDATE … SET … WHERE …`: the number of rows changed. -/
def update (table : τ) (assignments conditions : List (κ × Cell δ)) :
    Effect ε (Database τ κ δ) Nat := do
  if !((assignments ++ conditions).all fun pair => S.binds pair.2) then
    throw (S.reject .parameterValue)
  let db ← get
  let refused := (db table).zipIdx.findSome? fun entry =>
    if selects conditions entry.1 then
      S.refusal db table ((db table).eraseIdx entry.2) (assign assignments entry.1)
    else none
  S.write table refused
    ((db table).map fun row => if selects conditions row then assign assignments row else row)
  return ((db table).filter (selects conditions)).length

/-- `SELECT … WHERE …` -/
def select (table : τ) (conditions : List (κ × Cell δ)) :
    Effect ε (Database τ κ δ) (List (Row κ δ)) := do
  if !(conditions.all fun pair => S.binds pair.2) then throw (S.reject .parameterValue)
  let db ← get
  return (db table).filter (selects conditions)

/-- Why an `UPDATE` is rejected. -/
def updateRefusal (db : Database τ κ δ) (table : τ) (assignments conditions : List (κ × Cell δ)) :
    Option Rejection :=
  if !((assignments ++ conditions).all fun pair => S.binds pair.2) then some .parameterValue
  else (db table).zipIdx.findSome? fun entry =>
    if selects conditions entry.1 then
      S.refusal db table ((db table).eraseIdx entry.2) (assign assignments entry.1)
    else none

/-- Why an `INSERT` that rejects conflicts is rejected. -/
def insertRefusal (db : Database τ κ δ) (statement : Insert τ κ δ) (params : List (Cell δ)) :
    Option Rejection :=
  (S.malformed statement params).or (S.refusal db statement.table (db statement.table)
    (statement.row S.schema params))

/-- What a well-formed `INSERT` satisfies. -/
theorem malformed_eq_none {statement : Insert τ κ δ} {params : List (Cell δ)} :
    S.malformed statement params = none ↔
      statement.columns.length = statement.values.length ∧
        params.length = placeholders statement.values ∧ (∀ cell ∈ params, S.binds cell = true) ∧
          ∀ column ∈ statement.columns, column ∈ S.schema.columns statement.table := by
  unfold malformed
  constructor
  · intro h
    split at h
    · cases h
    split at h
    · cases h
    split at h
    · cases h
    split at h
    · cases h
    rename_i hcolumns hparams hbinds hknown
    simp only [ne_eq, not_not] at hcolumns hparams
    exact ⟨hcolumns, hparams, by simpa using hbinds, by simpa using hknown⟩
  · rintro ⟨hcolumns, hparams, hbinds, hknown⟩
    rw [if_neg (not_not.mpr hcolumns), if_neg (not_not.mpr hparams), if_neg, if_neg]
    · simpa using hknown
    · simpa using hbinds

section

variable (db : Database τ κ δ)

@[simp] theorem exec_write (table : τ) (refused : Option Rejection) (rows : List (Row κ δ)) :
    Effect.exec (S.write table refused rows) db =
      match refused with
      | some rejection => (.error (S.reject rejection), db)
      | none => (.ok (), Function.update db table rows) := by
  cases refused <;> rfl

/-- What an `INSERT` that rejects conflicts answers, and what it leaves. -/
theorem exec_insert {statement : Insert τ κ δ} (hconflict : statement.onConflict = .reject)
    (params : List (Cell δ)) :
    Effect.exec (S.insert statement params) db =
      match S.insertRefusal db statement params with
      | some rejection => (.error (S.reject rejection), db)
      | none => (.ok (some (statement.row S.schema params)), Function.update db statement.table
          (db statement.table ++ [statement.row S.schema params])) := by
  unfold insert insertRefusal
  cases hmalformed : S.malformed statement params with
  | some rejection => rfl
  | none =>
    simp only [Effect.exec_bind, Effect.exec_get, hconflict, exec_write, Option.none_or]
    cases S.refusal db statement.table (db statement.table) (statement.row S.schema params) <;> rfl

/-- A malformed `INSERT` is rejected. -/
theorem exec_insert_malformed {statement : Insert τ κ δ} {params : List (Cell δ)}
    {rejection : Rejection} (h : S.malformed statement params = some rejection) :
    Effect.exec (S.insert statement params) db = (.error (S.reject rejection), db) := by
  unfold insert
  rw [h]
  rfl

/-- An `INSERT` whose row agrees with a stored one is skipped. -/
theorem exec_insert_skipped {statement : Insert τ κ δ} {target : List κ}
    (hconflict : statement.onConflict = .skip target) {params : List (Cell δ)}
    (hformed : S.malformed statement params = none)
    (hany : (db statement.table).any (agree target (statement.row S.schema params)) = true) :
    Effect.exec (S.insert statement params) db = (.ok none, db) := by
  unfold insert
  rw [hformed]
  simp only [Effect.exec_bind, Effect.exec_get, hconflict, Effect.exec_ite, hany, if_true]
  rfl

/-- What an `UPDATE` answers, and what it leaves. -/
theorem exec_update (table : τ) (assignments conditions : List (κ × Cell δ)) :
    Effect.exec (S.update table assignments conditions) db =
      match S.updateRefusal db table assignments conditions with
      | some rejection => (.error (S.reject rejection), db)
      | none => (.ok ((db table).filter (selects conditions)).length,
          Function.update db table ((db table).map fun row =>
            if selects conditions row then assign assignments row else row)) := by
  unfold update updateRefusal
  cases hbinds : (assignments ++ conditions).all fun pair => S.binds pair.2 with
  | false => rfl
  | true =>
    simp only [Effect.exec_bind, Effect.exec_get, Bool.not_true, Bool.false_eq_true, if_false,
      Effect.exec_pure, exec_write]
    cases (db table).zipIdx.findSome? fun entry =>
      if selects conditions entry.1 then
        S.refusal db table ((db table).eraseIdx entry.2) (assign assignments entry.1)
      else none <;> rfl

/-- What a `SELECT` answers; it changes nothing. -/
theorem exec_select_eq (table : τ) (conditions : List (κ × Cell δ)) :
    Effect.exec (S.select table conditions) db =
      (if (conditions.all fun pair => S.binds pair.2) then
          .ok ((db table).filter (selects conditions))
        else .error (S.reject .parameterValue), db) := by
  unfold select
  cases conditions.all fun pair => S.binds pair.2 <;> rfl

/-- What a `SELECT` answers. -/
theorem exec_select {table : τ} {conditions : List (κ × Cell δ)}
    (hbinds : (conditions.all fun pair => S.binds pair.2) = true) :
    Effect.exec (S.select table conditions) db =
      (.ok ((db table).filter (selects conditions)), db) := by
  rw [exec_select_eq, if_pos hbinds]

end

section

variable {S} {P : Database τ κ δ → Prop} {X : ε → Database τ κ δ → Prop}

/-- A row is written where it is not refused. -/
theorem triple_write {table : τ} {refused : Option Rejection} {rows : List (Row κ δ)}
    {Q : Unit → Database τ κ δ → Prop} (herror : ∀ e db, P db → X e db)
    (hok : ∀ db, P db → refused = none → Q () (Function.update db table rows)) :
    Effect.Triple P (S.write table refused rows) Q X := by
  refine Effect.Triple.of_exec ?_
  intro db hdb
  rw [exec_write]
  cases refused with
  | some rejection => exact herror _ db hdb
  | none => exact hok db hdb rfl

/-- An `INSERT` that rejects conflicts: its row is stored, or nothing is changed. -/
theorem triple_insert {statement : Insert τ κ δ} (hconflict : statement.onConflict = .reject)
    {params : List (Cell δ)} {Q : Option (Row κ δ) → Database τ κ δ → Prop}
    (herror : ∀ e db, P db → X e db)
    (hok : ∀ db, P db → Q (some (statement.row S.schema params))
      (Function.update db statement.table
        (db statement.table ++ [statement.row S.schema params]))) :
    Effect.Triple P (S.insert statement params) Q X := by
  refine Effect.Triple.of_exec ?_
  intro db hdb
  rw [exec_insert S db hconflict]
  cases S.insertRefusal db statement params with
  | some rejection => exact herror _ db hdb
  | none => exact hok db hdb

/-- An `INSERT` that skips conflicts: a row that agrees with it is there, or its own is stored. -/
theorem triple_insert_skip {statement : Insert τ κ δ} {target : List κ}
    (hconflict : statement.onConflict = .skip target) {params : List (Cell δ)}
    {Q : Option (Row κ δ) → Database τ κ δ → Prop} (herror : ∀ e db, P db → X e db)
    (hskip : ∀ db, P db → ∀ stored ∈ db statement.table,
      agree target (statement.row S.schema params) stored = true → Q none db)
    (hok : ∀ db, P db → (∀ stored ∈ db statement.table,
        agree target (statement.row S.schema params) stored = false) →
      Q (some (statement.row S.schema params)) (Function.update db statement.table
        (db statement.table ++ [statement.row S.schema params]))) :
    Effect.Triple P (S.insert statement params) Q X := by
  refine Effect.Triple.of_exec ?_
  intro db hdb
  unfold insert
  cases S.malformed statement params with
  | some rejection => exact herror _ db hdb
  | none =>
    by_cases hany : (db statement.table).any
        (agree target (statement.row S.schema params)) = true
    · obtain ⟨stored, hmem, hagree⟩ := List.any_eq_true.mp hany
      simp only [Effect.exec_bind, Effect.exec_get, hconflict, Effect.exec_ite, hany, if_true]
      exact hskip db hdb stored hmem hagree
    · simp only [Effect.exec_bind, Effect.exec_get, hconflict, Effect.exec_ite, exec_write, hany]
      cases S.refusal db statement.table (db statement.table) (statement.row S.schema params) with
      | some rejection => exact herror _ db hdb
      | none =>
        apply hok db hdb
        intro stored hmem
        apply Bool.eq_false_iff.mpr
        intro hagree
        exact hany (List.any_eq_true.mpr ⟨stored, hmem, hagree⟩)

/-- An `INSERT` that overwrites conflicts: its row is stored, or a stored row that agrees with it
takes the assigned columns. -/
theorem triple_insert_overwrite {statement : Insert τ κ δ} {target assigned : List κ}
    (hconflict : statement.onConflict = .overwrite target assigned) {params : List (Cell δ)}
    {Q : Option (Row κ δ) → Database τ κ δ → Prop} (herror : ∀ e db, P db → X e db)
    (hmerged : ∀ db, P db → ∀ i stored, (db statement.table)[i]? = some stored →
      agree target (statement.row S.schema params) stored = true →
      Q (some (merge assigned (statement.row S.schema params) stored))
        (Function.update db statement.table ((db statement.table).set i
          (merge assigned (statement.row S.schema params) stored))))
    (hok : ∀ db, P db → Q (some (statement.row S.schema params))
      (Function.update db statement.table
        (db statement.table ++ [statement.row S.schema params]))) :
    Effect.Triple P (S.insert statement params) Q X := by
  refine Effect.Triple.of_exec ?_
  intro db hdb
  unfold insert
  cases S.malformed statement params with
  | some rejection => exact herror _ db hdb
  | none =>
    cases hfind : (db statement.table).findIdx? (agree target (statement.row S.schema params)) with
    | none =>
      simp only [Effect.exec_bind, Effect.exec_get, hconflict, exec_write, hfind]
      cases S.refusal db statement.table (db statement.table) (statement.row S.schema params) with
      | some rejection => exact herror _ db hdb
      | none => exact hok db hdb
    | some i =>
      obtain ⟨hi, hagree, -⟩ := List.findIdx?_eq_some_iff_getElem.mp hfind
      have hstored : (db statement.table).getD i (statement.row S.schema params) =
          (db statement.table)[i] := by simp [hi]
      simp only [Effect.exec_bind, Effect.exec_get, hconflict, exec_write, hfind, hstored]
      cases S.refusal db statement.table ((db statement.table).eraseIdx i)
        (merge assigned (statement.row S.schema params) (db statement.table)[i]) with
      | some rejection => exact herror _ db hdb
      | none => exact hmerged db hdb i _ (List.getElem?_eq_getElem hi) hagree

/-- An `UPDATE`: the selected rows take the assignments, or nothing is changed. -/
theorem triple_update {table : τ} {assignments conditions : List (κ × Cell δ)}
    {Q : Nat → Database τ κ δ → Prop} (herror : ∀ e db, P db → X e db)
    (hok : ∀ db, P db → Q ((db table).filter (selects conditions)).length
      (Function.update db table ((db table).map fun row =>
        if selects conditions row then assign assignments row else row))) :
    Effect.Triple P (S.update table assignments conditions) Q X := by
  refine Effect.Triple.of_exec ?_
  intro db hdb
  unfold update
  by_cases hbinds : ((assignments ++ conditions).all fun pair => S.binds pair.2) = true
  · rw [hbinds]
    simp only [Effect.exec_bind, Effect.exec_get, Bool.not_true, Bool.false_eq_true, if_false,
      Effect.exec_pure, exec_write]
    cases (db table).zipIdx.findSome? fun entry =>
      if selects conditions entry.1 then
        S.refusal db table ((db table).eraseIdx entry.2) (assign assignments entry.1)
      else none with
    | some rejection => exact herror _ db hdb
    | none => exact hok db hdb
  · rw [Bool.eq_false_iff.mpr hbinds]
    exact herror _ db hdb

/-- A `SELECT` changes nothing. -/
theorem triple_select {table : τ} {conditions : List (κ × Cell δ)}
    {Q : List (Row κ δ) → Database τ κ δ → Prop} (herror : ∀ e db, P db → X e db)
    (hok : ∀ db, P db → Q ((db table).filter (selects conditions)) db) :
    Effect.Triple P (S.select table conditions) Q X := by
  refine Effect.Triple.of_exec ?_
  intro db hdb
  unfold select
  by_cases hbinds : (conditions.all fun pair => S.binds pair.2) = true
  · rw [hbinds]
    exact hok db hdb
  · rw [Bool.eq_false_iff.mpr hbinds]
    exact herror _ db hdb

/-- An `INSERT` that overwrites nothing keeps what is stable at its table. -/
theorem keeps_insert {I : Database τ κ δ → Prop} {statement : Insert τ κ δ}
    (hI : StableAt statement.table I)
    (hconflict : statement.onConflict = .reject ∨ ∃ target, statement.onConflict = .skip target)
    (params : List (Cell δ)) : Effect.Keeps I (S.insert statement params) := by
  obtain hconflict | ⟨target, hconflict⟩ := hconflict
  · apply triple_insert hconflict
    · exact fun _ _ hdb => hdb
    · exact fun db hdb => hI _ _ hdb
  · apply triple_insert_skip hconflict
    · exact fun _ _ hdb => hdb
    · exact fun _ hdb _ _ _ => hdb
    · exact fun db hdb _ => hI _ _ hdb

/-- A `SELECT` keeps everything. -/
theorem keeps_select {I : Database τ κ δ → Prop} (table : τ) (conditions : List (κ × Cell δ)) :
    Effect.Keeps I (S.select table conditions) :=
  triple_select (fun _ _ hdb => hdb) fun _ hdb => hdb

end

end Server

end

end Xygo.Computation.Relational
