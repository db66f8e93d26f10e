import RowAccess.Value

/-!
# Rows

A row gives each of its columns one value and keeps the order in which the columns
came. Write payloads and filter conditions are rows too. That no column occurs twice is
part of the type.
-/

namespace RowAccess

/-- Columns with their values, in order, each column once. -/
structure Row where
  entries : List (String × Value)
  distinct : (Entries.names entries).Nodup

namespace Row

def empty : Row := ⟨[], List.nodup_nil⟩

instance : EmptyCollection Row := ⟨empty⟩

instance : Inhabited Row := ⟨empty⟩

/-- The columns, in order. -/
def keys (r : Row) : List String := Entries.names r.entries

def get? (r : Row) (column : String) : Option Value := Entries.find? r.entries column

def isEmpty (r : Row) : Bool := r.entries.isEmpty

def size (r : Row) : Nat := r.entries.length

/-- Gives a column a value, in its place or at the end. -/
def insert (r : Row) (column : String) (v : Value) : Row :=
  ⟨Entries.put r.entries column v, Entries.nodup_put r.distinct column v⟩

/-- Inserts every column of the second row, in its order. -/
def extend (r s : Row) : Row :=
  ⟨Entries.putAll r.entries s.entries, Entries.nodup_putAll r.distinct s.entries⟩

/-- The row of the entries: the first place of a column, its last value. -/
def ofEntries (es : List (String × Value)) : Row :=
  ⟨Entries.ofList es, Entries.nodup_ofList es⟩

def ofValue? (v : Value) : Option Row := v.fields?.map ofEntries

def toValue (r : Row) : Value := .object r.entries

/-- The columns whose names pass the test. -/
def onNames (test : String → Bool) (r : Row) : Row :=
  ⟨r.entries.filter fun c => test c.1, r.distinct.sublist (List.filter_sublist.map _)⟩

theorem ext {r s : Row} (h : r.entries = s.entries) : r = s := by
  cases r; cases s; simp_all

@[simp] theorem get?_insert (r : Row) (column k : String) (v : Value) :
    (r.insert column v).get? k = if column = k then some v else r.get? k :=
  Entries.find?_put r.entries column v k

@[simp] theorem ofEntries_entries (r : Row) : ofEntries r.entries = r :=
  ext (Entries.ofList_of_nodup r.distinct)

@[simp] theorem ofValue?_toValue (r : Row) : ofValue? r.toValue = some r :=
  congrArg some (ofEntries_entries r)

/-- The search for a column that fails a test finds the first one, in the order of the row. -/
theorem find?_keys_eq_some_iff {r : Row} {test : String → Bool} {column : String} :
    (r.keys.find? fun k => !test k) = some column ↔
      ∃ front back, r.keys = front ++ column :: back ∧ (∀ k ∈ front, test k = true) ∧
        test column = false := by
  rw [List.find?_eq_some_iff_append]
  simp only [Bool.not_eq_true', Bool.not_not]
  constructor
  · rintro ⟨hfails, front, back, hsplit, hfront⟩
    exact ⟨front, back, hsplit, hfront, hfails⟩
  · rintro ⟨front, back, hsplit, hfront, hfails⟩
    exact ⟨hfails, front, back, hsplit, hfront⟩

theorem keys_onNames (test : String → Bool) (r : Row) :
    (r.onNames test).keys = r.keys.filter test :=
  Entries.names_filter test r.entries

theorem get?_onNames (test : String → Bool) (r : Row) (k : String) :
    (r.onNames test).get? k = if test k then r.get? k else none :=
  Entries.find?_filter test r.entries k

@[simp] theorem get?_empty (k : String) : (empty : Row).get? k = none := rfl

end Row

end RowAccess
