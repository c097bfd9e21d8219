import Moxui.Lib.Machine
import Moxui.Lib.Table

set_option autoImplicit false

-- One machine for each key: an input is taken by the machine of its key.
namespace Keyed

variable {κ β ι ο : Type} [DecidableEq κ] (one : Machine β ι ο) (fresh : β) (key : ι → κ)

def bucket (store : Table κ β) (name : κ) : β :=
  (store.lookup name).getD fresh

def machine : Machine (Table κ β) ι ο where
  step store input :=
    let taken := one.step (bucket fresh store (key input)) input
    (store.insert (key input) taken.1, taken.2)

def ofKey (name : κ) (inputs : List ι) : List ι :=
  inputs.filter fun input => key input = name

theorem bucket_empty (name : κ) : bucket fresh (∅ : Table κ β) name = fresh := rfl

theorem bucket_step (store : Table κ β) (input : ι) (name : κ) :
    bucket fresh ((machine one fresh key).step store input).1 name =
      if name = key input then (one.step (bucket fresh store name) input).1 else bucket fresh store name := by
  have inserted : bucket fresh ((machine one fresh key).step store input).1 name =
      ((store.insert (key input) (one.step (bucket fresh store (key input)) input).1).lookup name).getD fresh := rfl
  rw [inserted, Table.lookup_insert_eq]
  by_cases same : name = key input
  · rw [if_pos same, if_pos same, same]
    rfl
  · rw [if_neg same, if_neg same]
    rfl

theorem bucket_run (store : Table κ β) (inputs : List ι) (name : κ) :
    bucket fresh ((machine one fresh key).run store inputs) name =
      one.run (bucket fresh store name) (ofKey key name inputs) := by
  induction inputs generalizing store with
  | nil => rfl
  | cons input inputs ih =>
      rw [Machine.run, ih, bucket_step]
      by_cases same : name = key input
      · have kept : ofKey key name (input :: inputs) = input :: ofKey key name inputs :=
          List.filter_cons_of_pos (decide_eq_true same.symm)
        rw [if_pos same, kept]
        rfl
      · have dropped : ofKey key name (input :: inputs) = ofKey key name inputs :=
          List.filter_cons_of_neg (by simpa using fun chosen : key input = name => same chosen.symm)
        rw [if_neg same, dropped]

theorem output_run (earlier : List ι) (input : ι) :
    ((machine one fresh key).step ((machine one fresh key).run ∅ earlier) input).2 =
      (one.step (one.run fresh (ofKey key (key input) earlier)) input).2 := by
  have answered (store : Table κ β) : ((machine one fresh key).step store input).2 =
      (one.step (bucket fresh store (key input)) input).2 := rfl
  rw [answered, bucket_run, bucket_empty]

end Keyed
