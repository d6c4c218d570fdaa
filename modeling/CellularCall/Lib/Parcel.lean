import Mathlib.Algebra.Group.Nat.Defs
import Mathlib.Data.List.Basic
import Mathlib.Control.Basic

/-!
# Parcels

A parcel is a queue of typed items: what is written first is read first.  A read
that finds an item of another type, or none, has gone astray: what it returns
and leaves is not known, and a `Reader` has no result.  Only a block of raw data
may be asked for in vain: the read gives nothing and leaves the parcel as it is.

`Yields r p a` says that a reader takes exactly the items `p` from the front of
a parcel and returns `a`.  A sequence of reads is taken apart by `Yields.bind`,
and a counted loop by `Yields.times`.
-/

namespace Lib

/-- An item of a parcel.  A float is known by its bits, an object by its
number. -/
inductive Item where
  | token (descriptor : List Char)
  | bool (value : Bool)
  | int8 (value : Int)
  | int32 (value : Int)
  | int64 (value : Int)
  | float (bits : Nat)
  | string (value : List Char)
  | string16 (value : List Char)
  | strings (value : List (List Char))
  | raw (bytes : List UInt8)
  | object (number : Nat)
deriving DecidableEq, Repr

abbrev Parcel := List Item

/-- The type of an item. -/
inductive Kind where
  | token
  | bool
  | int8
  | int32
  | int64
  | float
  | string
  | string16
  | strings
  | raw
  | object
deriving DecidableEq, Repr

def Item.kind : Item → Kind
  | .token _ => .token
  | .bool _ => .bool
  | .int8 _ => .int8
  | .int32 _ => .int32
  | .int64 _ => .int64
  | .float _ => .float
  | .string _ => .string
  | .string16 _ => .string16
  | .strings _ => .strings
  | .raw _ => .raw
  | .object _ => .object

/-- A block of raw data of a fixed size: the memory of a struct. -/
abbrev Block (size : Nat) := { bytes : List UInt8 // bytes.length = size }

/-- A block of zeroes. -/
def Block.zero (size : Nat) : Block size := ⟨List.replicate size 0, List.length_replicate⟩

/-- The item that carries a block. -/
def Block.item {size : Nat} (b : Block size) : Item := .raw b.val

/-- The length of a vector as an `int32_t`. -/
@[irreducible] def int32Size (n : Nat) : Int := (n : Int).bmod (2 ^ 32)

abbrev Reader (α : Type) := StateT Parcel Option α

namespace Reader

def token : Reader (List Char)
  | .token descriptor :: rest => some (descriptor, rest)
  | _ => none

def bool : Reader Bool
  | .bool value :: rest => some (value, rest)
  | _ => none

def int8 : Reader Int
  | .int8 value :: rest => some (value, rest)
  | _ => none

def int32 : Reader Int
  | .int32 value :: rest => some (value, rest)
  | _ => none

def int64 : Reader Int
  | .int64 value :: rest => some (value, rest)
  | _ => none

def float : Reader Nat
  | .float bits :: rest => some (bits, rest)
  | _ => none

def string : Reader (List Char)
  | .string value :: rest => some (value, rest)
  | _ => none

def string16 : Reader (List Char)
  | .string16 value :: rest => some (value, rest)
  | _ => none

def strings : Reader (List (List Char))
  | .strings value :: rest => some (value, rest)
  | _ => none

def object : Reader Nat
  | .object number :: rest => some (number, rest)
  | _ => none

/-- Items of the given types, in this order. -/
def items : List Kind → Reader Parcel
  | [] => pure []
  | kind :: kinds => fun
    | item :: rest =>
      if item.kind = kind then (items kinds rest).map fun out => (item :: out.1, out.2) else none
    | [] => none

/-- Raw data of the given size.  A block of another size is read astray. -/
def block (size : Nat) : Reader (Option (Block size))
  | .raw bytes :: rest =>
    if hsize : bytes.length = size then some (some ⟨bytes, hsize⟩, rest) else none
  | p => some (none, p)

/-- A loop that reads `n` times. -/
def times {α : Type} (n : Nat) (r : Reader α) : Reader (List α) :=
  match n with
  | 0 => pure []
  | n + 1 => do
    let a ← r
    let as ← times n r
    pure (a :: as)

end Reader

/-- The reader takes the items `p` and returns `a`. -/
def Yields {α : Type} (r : Reader α) (p : Parcel) (a : α) : Prop :=
  ∀ rest, r (p ++ rest) = some (a, rest)

variable {α β : Type}

/-- Reads after each other take what was written after each other. -/
theorem Yields.bind {r : Reader α} {f : α → Reader β} {p q : Parcel} {a : α} {b : β}
    (hr : Yields r p a) (hf : Yields (f a) q b) : Yields (r >>= f) (p ++ q) b := by
  intro rest
  show (r (p ++ q ++ rest)).bind (fun out => f out.1 out.2) = some (b, rest)
  rw [List.append_assoc, hr (q ++ rest)]
  exact hf rest

theorem Yields.pure (a : α) : Yields (Pure.pure a) [] a := fun _ => rfl

theorem Yields.int32 (value : Int) : Yields Reader.int32 [.int32 value] value := fun _ => rfl

/-- The reads after a first one go on with what it leaves. -/
theorem Reader.bind_of_eq {r : Reader α} {p q : Parcel} {a : α} (hr : r p = some (a, q))
    (f : α → Reader β) : (r >>= f) p = f a q := by
  show (r p).bind (fun out => f out.1 out.2) = f a q
  rw [hr]
  rfl

/-- Nothing is read after a read that has gone astray. -/
theorem Reader.bind_of_none {r : Reader α} {p : Parcel} (hr : r p = none) (f : α → Reader β) :
    (r >>= f) p = none := by
  show (r p).bind (fun out => f out.1 out.2) = none
  rw [hr]
  rfl

theorem Yields.run_bind {r : Reader α} {p : Parcel} {a : α} (hr : Yields r p a)
    (f : α → Reader β) (rest : Parcel) : (r >>= f) (p ++ rest) = f a rest :=
  Reader.bind_of_eq (hr rest) f

/-- Items are read exactly if the parcel begins with items of these types. -/
theorem Reader.items_eq (kinds : List Kind) (p : Parcel) :
    Reader.items kinds p =
      if kinds = (p.take kinds.length).map Item.kind then
        some (p.take kinds.length, p.drop kinds.length)
      else none := by
  induction kinds generalizing p with
  | nil => rfl
  | cons kind kinds ih =>
    cases p with
    | nil => rfl
    | cons item rest =>
      show (if item.kind = kind then
          (Reader.items kinds rest).map fun out => (item :: out.1, out.2)
        else none) = _
      simp only [List.length_cons, List.take_succ_cons, List.drop_succ_cons, List.map_cons,
        List.cons.injEq]
      by_cases hkind : item.kind = kind
      · rw [if_pos hkind, ih rest]
        by_cases hkinds : kinds = (rest.take kinds.length).map Item.kind
        · rw [if_pos hkinds, if_pos ⟨hkind.symm, hkinds⟩]
          rfl
        · rw [if_neg hkinds, if_neg fun hboth => hkinds hboth.2]
          rfl
      · rw [if_neg hkind, if_neg fun hboth => hkind hboth.1.symm]

theorem Yields.block {size : Nat} (b : Block size) :
    Yields (Reader.block size) [b.item] (some b) := by
  intro rest
  exact dif_pos b.property

/-- A counted loop reads back a list written entry by entry. -/
theorem Yields.times {r : Reader α} {write : α → Parcel} (hr : ∀ a, Yields r (write a) a)
    (as : List α) : Yields (Reader.times as.length r) (as.flatMap write) as := by
  induction as with
  | nil => exact Yields.pure []
  | cons a as ih =>
    rw [List.flatMap_cons]
    apply (hr a).bind
    have hrest : Yields (do
        let as' ← Reader.times as.length r
        Pure.pure (a :: as')) (as.flatMap write ++ []) (a :: as) := ih.bind (Yields.pure _)
    rw [List.append_nil] at hrest
    exact hrest

/-- A loop that stops early reads the entries it got to. -/
theorem Yields.times_take {r : Reader α} {write : α → Parcel} (hr : ∀ a, Yields r (write a) a)
    {n : Nat} {as : List α} (hn : n ≤ as.length) (rest : Parcel) :
    Reader.times n r (as.flatMap write ++ rest) =
      some (as.take n, (as.drop n).flatMap write ++ rest) := by
  have hlength : (as.take n).length = n := List.length_take_of_le hn
  have htake := Yields.times hr (as.take n) ((as.drop n).flatMap write ++ rest)
  rw [hlength, ← List.append_assoc, ← List.flatMap_append, List.take_append_drop] at htake
  exact htake

/-- A short vector keeps its length. -/
theorem int32Size_of_lt {n : Nat} (hn : n < 2 ^ 31) : int32Size n = n := by
  unfold int32Size
  apply Int.bmod_eq_of_le
  · omega
  · omega

/-- A length is not made longer. -/
theorem int32Size_toNat_le (n : Nat) : (int32Size n).toNat ≤ n := by
  unfold int32Size
  rw [Int.bmod_def]
  omega

end Lib
