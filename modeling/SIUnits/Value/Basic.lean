import SIUnits.Binary64.Basic

/-! The values that a report may carry beside its text: the details of a failure and the fields of
a record. A record keeps its entries in the order in which their keys were first put in. -/
namespace SIUnits

inductive Value where
  | null
  | boolean (b : Bool)
  | integer (n : Int)
  | number (x : Binary64)
  | text (s : String)
  | list (items : List Value)
  | record (entries : List (String × Value))

/-- The value says nothing: there is none, or it is false, zero or empty. -/
def Value.isVoid : Value → Bool
  | .null => true
  | .boolean b => !b
  | .integer n => n = 0
  | .number x => x.withoutSignedZero = .zero
  | .text s => s = ""
  | .list items => items.isEmpty
  | .record entries => entries.isEmpty

mutual

/-- The whole numbers in a value, at any depth. -/
def Value.integers : Value → List Int
  | .integer n => [n]
  | .list items => integersOfItems items
  | .record entries => integersOfEntries entries
  | _ => []

def integersOfItems : List Value → List Int
  | [] => []
  | v :: rest => v.integers ++ integersOfItems rest

def integersOfEntries : List (String × Value) → List Int
  | [] => []
  | (_, v) :: rest => v.integers ++ integersOfEntries rest

end

abbrev Entries := List (String × Value)

namespace Entries

/-- The value of a key; of two entries with one key the first counts. -/
def get? (entries : Entries) (key : String) : Option Value := entries.lookup key

def keys (entries : Entries) : List String := entries.map Prod.fst

/-- The entries with `value` at `key`: in the place of the old one, or at the end. -/
def insert (key : String) (value : Value) : Entries → Entries
  | [] => [(key, value)]
  | (k, v) :: rest =>
    if k = key then (key, value) :: rest else (k, v) :: insert key value rest

/-- The entries with `value` at `key` unless the key is there already. -/
def insertIfNew (key : String) (value : Value) (entries : Entries) : Entries :=
  if key ∈ entries.keys then entries else entries.insert key value

def insertAll (entries news : Entries) : Entries :=
  news.foldl (fun acc entry => acc.insert entry.1 entry.2) entries

/-- A key that is there keeps its place, and a new one comes last. -/
theorem keys_insert (key : String) (value : Value) (entries : Entries) :
    (entries.insert key value).keys =
      if key ∈ entries.keys then entries.keys else entries.keys ++ [key] := by
  induction entries with
  | nil => simp [insert, keys]
  | cons entry rest ih =>
    obtain ⟨k, v⟩ := entry
    by_cases h : k = key
    · subst h; simp [insert, keys]
    · have hne : ¬key = k := fun e => h e.symm
      have ih' : List.map Prod.fst (insert key value rest) =
          if key ∈ List.map Prod.fst rest then List.map Prod.fst rest
          else List.map Prod.fst rest ++ [key] := ih
      by_cases hm : key ∈ List.map Prod.fst rest <;>
        simp only [insert, keys, h, hne, hm, ih', List.map_cons, List.mem_cons, if_true, if_false,
          or_true, or_self, List.cons_append]

theorem get?_insert_self (key : String) (value : Value) (entries : Entries) :
    (entries.insert key value).get? key = some value := by
  induction entries with
  | nil => simp [insert, get?]
  | cons entry rest ih =>
    obtain ⟨k, v⟩ := entry
    by_cases h : k = key
    · subst h; simp [insert, get?]
    · have hne : (key == k) = false := beq_false_of_ne fun e => h e.symm
      have ih' : List.lookup key (insert key value rest) = some value := ih
      simp only [insert, get?, h, if_false, List.lookup_cons, hne, ih']

theorem get?_insert_of_ne {key other : String} (value : Value) (entries : Entries)
    (h : other ≠ key) : (entries.insert key value).get? other = entries.get? other := by
  induction entries with
  | nil => simp [insert, get?, List.lookup_cons, beq_false_of_ne h]
  | cons entry rest ih =>
    obtain ⟨k, v⟩ := entry
    by_cases hk : k = key
    · subst hk; simp only [insert, get?, if_true, List.lookup_cons, beq_false_of_ne h]
    · have ih' : List.lookup other (insert key value rest) = List.lookup other rest := ih
      simp only [insert, get?, hk, if_false, List.lookup_cons, ih']

end Entries

end SIUnits
