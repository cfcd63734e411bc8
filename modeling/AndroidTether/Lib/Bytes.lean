import AndroidTether.Lib.Loop
import Mathlib.Data.List.Basic
import Mathlib.Tactic.Common

namespace Bytes

/-!
# Byte memory

A memory is a total function from addresses to bytes, so that a read past the end of a
buffer has a value (whatever lies there) instead of being undefined: bounds are something
to prove about the addresses a program reads, not something the model enforces.

* `slice`, `At` — the bytes at an address, as a list;
* `le32`, `be16`, `be32` and the encoders `le32Bytes`, `be16Bytes`, `be32Bytes`;
* `store`, `storeAll` — writing one byte string, and a program's writes in order;
* `Logged` — a computation together with the spans it read, and loops of such rounds.
-/

/-- Memory contents by address. -/
abbrev Mem := Nat → UInt8

/-- `len` bytes from `start` on. -/
structure Span where
  start : Nat
  len : Nat
  deriving DecidableEq, Repr

/-- The span ends at or before address `n`. -/
def Span.Within (s : Span) (n : Nat) : Prop := s.start + s.len ≤ n

instance (s : Span) (n : Nat) : Decidable (s.Within n) := inferInstanceAs (Decidable (_ ≤ _))

/-- The memory that holds `l` from address `0` on, and zeros after it. -/
def ofList (l : List UInt8) : Mem := fun i => l.getD i 0

/-- The `n` bytes from address `a` on. -/
def slice (m : Mem) (a n : Nat) : List UInt8 := (List.range n).map fun i => m (a + i)

/-- The bytes a span covers. -/
def Span.bytes (m : Mem) (s : Span) : List UInt8 := slice m s.start s.len

/-- The byte string `bs` lies at address `a`. -/
def At (m : Mem) (a : Nat) (bs : List UInt8) : Prop := ∀ i < bs.length, m (a + i) = ofList bs i

@[simp] theorem ofList_cons_zero (b : UInt8) (l : List UInt8) : ofList (b :: l) 0 = b := rfl
@[simp] theorem ofList_cons_succ (b : UInt8) (l : List UInt8) (i : Nat) :
    ofList (b :: l) (i + 1) = ofList l i := rfl
@[simp] theorem slice_length (m : Mem) (a n : Nat) : (slice m a n).length = n := by simp [slice]
/-- Nothing is read. -/
@[simp] theorem slice_zero (m : Mem) (a : Nat) : slice m a 0 = [] := rfl

/-- The first byte, and the rest. -/
theorem slice_succ (m : Mem) (a n : Nat) : slice m a (n + 1) = m a :: slice m (a + 1) n := by
  simp only [slice, List.range_succ_eq_map, List.map_cons, List.map_map, Nat.add_zero]
  congr 1
  exact List.map_congr_left fun i _ => by simp [Nat.add_comm 1 i, Nat.add_assoc]

/-- Two adjacent stretches. -/
theorem slice_add (m : Mem) (a n k : Nat) :
    slice m a (n + k) = slice m a n ++ slice m (a + n) k := by
  induction n generalizing a with
  | zero => simp
  | succ n ih =>
    rw [show n + 1 + k = n + k + 1 by omega, slice_succ, slice_succ, ih, List.cons_append,
      show a + 1 + n = a + (n + 1) by omega]

/-- The beginning of a stretch. -/
theorem take_slice {m : Mem} {a n k : Nat} (h : k ≤ n) : (slice m a n).take k = slice m a k := by
  obtain ⟨d, rfl⟩ := Nat.exists_eq_add_of_le h
  rw [slice_add, List.take_left' (slice_length m a k)]

/-- The end of a stretch. -/
theorem drop_slice {m : Mem} {a n k : Nat} (h : k ≤ n) :
    (slice m a n).drop k = slice m (a + k) (n - k) := by
  obtain ⟨d, rfl⟩ := Nat.exists_eq_add_of_le h
  rw [slice_add, List.drop_left' (slice_length m a k), Nat.add_sub_cancel_left]

/-- Slices that agree byte by byte are equal. -/
theorem slice_congr {m m' : Mem} {a b n : Nat} (h : ∀ i < n, m (a + i) = m' (b + i)) :
    slice m a n = slice m' b n :=
  List.map_congr_left fun i hi => h i (List.mem_range.mp hi)

/-- A list stands in its own memory. -/
@[simp] theorem slice_ofList (l : List UInt8) : slice (ofList l) 0 l.length = l := by
  induction l with
  | nil => rfl
  | cons b l ih =>
    rw [List.length_cons, slice_succ, ofList_cons_zero]
    congr 1
    calc slice (ofList (b :: l)) (0 + 1) l.length = slice (ofList l) 0 l.length :=
          slice_congr fun i _ => by simp [Nat.add_comm 1 i]
      _ = l := ih

/-- The first bytes of a memory that holds `l`. -/
theorem slice_ofList_zero {l : List UInt8} {n : Nat} (h : n ≤ l.length) :
    slice (ofList l) 0 n = l.take n := by
  rw [← take_slice h, slice_ofList]

/-! ### Byte strings lying in memory -/

/-- What stands somewhere is what is read there. -/
theorem at_iff_slice {m : Mem} {a : Nat} {bs : List UInt8} :
    At m a bs ↔ slice m a bs.length = bs := by
  constructor
  · intro h
    calc slice m a bs.length = slice (ofList bs) 0 bs.length :=
          slice_congr fun i hi => by rw [h i hi, Nat.zero_add]
      _ = bs := slice_ofList bs
  · intro h i hi
    have hget : (slice m a bs.length)[i]? = some (m (a + i)) := by simp [slice, hi]
    rw [h] at hget
    simp [ofList, List.getD_eq_getElem?_getD, hget]

/-- What is read somewhere stands there. -/
theorem at_slice (m : Mem) (a n : Nat) : At m a (slice m a n) := by
  rw [at_iff_slice, slice_length]

/-- A list stands at the start of its own memory. -/
theorem at_ofList (l : List UInt8) : At (ofList l) 0 l := by
  rw [at_iff_slice, slice_ofList]

/-- Two lists one after the other. -/
theorem at_append {m : Mem} {a : Nat} {xs ys : List UInt8} :
    At m a (xs ++ ys) ↔ At m a xs ∧ At m (a + xs.length) ys := by
  simp only [at_iff_slice, List.length_append, slice_add]
  constructor
  · intro h
    exact List.append_inj h (by simp)
  · rintro ⟨h₁, h₂⟩
    rw [h₁, h₂]

/-- Inside a byte string that lies at `a`, memory reads as the string does. -/
theorem At.slice_eq {m : Mem} {a : Nat} {bs : List UInt8} (h : At m a bs) {i n : Nat}
    (hin : i + n ≤ bs.length) : slice m (a + i) n = slice (ofList bs) i n :=
  slice_congr fun j hj => by rw [Nat.add_assoc, h (i + j) (by omega)]

/-- A byte string that lies in the first bytes of a memory lies in a copy of them. -/
theorem At.ofList_slice {m : Mem} {a : Nat} {bs : List UInt8} (h : At m a bs) {n : Nat}
    (hn : a + bs.length ≤ n) : At (ofList (slice m 0 n)) a bs := by
  intro i hi
  have hbyte := at_slice m 0 n (a + i) (by rw [slice_length]; omega)
  rw [← hbyte, Nat.zero_add, h i hi]

/-! ### Multi-byte fields -/

/-- The 32-bit little-endian field at `a`. -/
def le32 (m : Mem) (a : Nat) : Nat :=
  (m a).toNat + 256 * (m (a + 1)).toNat + 65536 * (m (a + 2)).toNat +
    16777216 * (m (a + 3)).toNat

/-- The 16-bit big-endian field at `a`. -/
def be16 (m : Mem) (a : Nat) : Nat := 256 * (m a).toNat + (m (a + 1)).toNat

/-- The 32-bit big-endian field at `a`. -/
def be32 (m : Mem) (a : Nat) : Nat := 65536 * be16 m a + be16 m (a + 2)

def le32Bytes (n : Nat) : List UInt8 :=
  [UInt8.ofNat n, UInt8.ofNat (n / 256), UInt8.ofNat (n / 65536), UInt8.ofNat (n / 16777216)]

def be16Bytes (n : Nat) : List UInt8 := [UInt8.ofNat (n / 256), UInt8.ofNat n]

def be32Bytes (n : Nat) : List UInt8 := be16Bytes (n / 65536) ++ be16Bytes n

@[simp] theorem le32Bytes_length (n : Nat) : (le32Bytes n).length = 4 := rfl
@[simp] theorem be16Bytes_length (n : Nat) : (be16Bytes n).length = 2 := rfl
@[simp] theorem be32Bytes_length (n : Nat) : (be32Bytes n).length = 4 := rfl

/-- A field of four bytes is less than `2 ^ 32`. -/
theorem le32_lt (m : Mem) (a : Nat) : le32 m a < 2 ^ 32 := by
  have h0 := (m a).toNat_lt
  have h1 := (m (a + 1)).toNat_lt
  have h2 := (m (a + 2)).toNat_lt
  have h3 := (m (a + 3)).toNat_lt
  simp only [le32]
  omega

/-- Reading back an encoded 32-bit field. -/
theorem At.le32_eq {m : Mem} {a n : Nat} (h : At m a (le32Bytes n)) : le32 m a = n % 2 ^ 32 := by
  have h0 := h 0 (by simp)
  have h1 := h 1 (by simp)
  have h2 := h 2 (by simp)
  have h3 := h 3 (by simp)
  simp only [Nat.add_zero, le32Bytes, ofList, List.getD_cons_zero, List.getD_cons_succ] at h0 h1 h2 h3
  simp only [le32, h0, h1, h2, h3, UInt8.toNat_ofNat']
  omega

/-- Reading two bytes in network order. -/
theorem At.be16_eq {m : Mem} {a n : Nat} (h : At m a (be16Bytes n)) : be16 m a = n % 2 ^ 16 := by
  have h0 := h 0 (by simp)
  have h1 := h 1 (by simp)
  simp only [Nat.add_zero, be16Bytes, ofList, List.getD_cons_zero, List.getD_cons_succ] at h0 h1
  simp only [be16, h0, h1, UInt8.toNat_ofNat']
  omega

/-- Reading four bytes in network order. -/
theorem At.be32_eq {m : Mem} {a n : Nat} (h : At m a (be32Bytes n)) : be32 m a = n % 2 ^ 32 := by
  rw [be32Bytes, at_append, be16Bytes_length] at h
  rw [be32, h.1.be16_eq, h.2.be16_eq]
  omega

/-- Encoding a field that was read gives the bytes it was read from. -/
theorem be16Bytes_be16 (m : Mem) (a : Nat) : be16Bytes (be16 m a) = slice m a 2 := by
  have h0 := (m a).toNat_lt
  have h1 := (m (a + 1)).toNat_lt
  simp only [slice_succ, slice_zero, be16Bytes, be16, List.cons.injEq, and_true,
    ← UInt8.toNat_inj, UInt8.toNat_ofNat']
  omega

/-- The bytes of a field that has been read. -/
theorem be32Bytes_be32 (m : Mem) (a : Nat) : be32Bytes (be32 m a) = slice m a 4 := by
  have h1 : be16 m (a + 2) < 65536 := by
    have h2 := (m (a + 2)).toNat_lt
    have h3 := (m (a + 2 + 1)).toNat_lt
    simp only [be16]
    omega
  have hhigh : be32 m a / 65536 = be16 m a := by
    simp only [be32]
    omega
  have hlow : be16Bytes (be32 m a) = be16Bytes (be16 m (a + 2)) := by
    simp only [be16Bytes, be32, List.cons.injEq, and_true, ← UInt8.toNat_inj, UInt8.toNat_ofNat']
    omega
  rw [be32Bytes, hhigh, hlow, be16Bytes_be16, be16Bytes_be16, ← slice_add]

/-- A field inside a byte string that lies at `a` is the string's. -/
theorem At.le32 {m : Mem} {a : Nat} {bs : List UInt8} (h : At m a bs) {i : Nat}
    (hi : i + 4 ≤ bs.length) : le32 m (a + i) = Bytes.le32 (ofList bs) i := by
  simp only [Bytes.le32, Nat.add_assoc]
  rw [h i (by omega), h (i + 1) (by omega), h (i + 2) (by omega), h (i + 3) (by omega)]

/-- A field of a slice is the memory's. -/
theorem le32_slice (m : Mem) {a n i : Nat} (hi : i + 4 ≤ n) :
    Bytes.le32 (ofList (slice m a n)) i = Bytes.le32 m (a + i) :=
  ((at_slice m a n).le32 (by rwa [slice_length])).symm

/-- A field of a list that stands somewhere, two bytes wide. -/
theorem At.be16 {m : Mem} {a : Nat} {bs : List UInt8} (h : At m a bs) {i : Nat}
    (hi : i + 2 ≤ bs.length) : be16 m (a + i) = Bytes.be16 (ofList bs) i := by
  simp only [Bytes.be16, Nat.add_assoc]
  rw [h i (by omega), h (i + 1) (by omega)]

/-- The same, four bytes wide. -/
theorem At.be32 {m : Mem} {a : Nat} {bs : List UInt8} (h : At m a bs) {i : Nat}
    (hi : i + 4 ≤ bs.length) : be32 m (a + i) = Bytes.be32 (ofList bs) i := by
  simp only [Bytes.be32]
  rw [h.be16 (by omega), Nat.add_assoc, h.be16 (by omega)]

/-- A field of a stretch is the memory's. -/
theorem be16_slice (m : Mem) {n i : Nat} (hi : i + 2 ≤ n) :
    Bytes.be16 (ofList (slice m 0 n)) i = Bytes.be16 m i := by
  rw [← (at_slice m 0 n).be16 (by rwa [slice_length]), Nat.zero_add]

/-! ### Writes -/

/-- A byte string and the address it is written to. -/
structure Store where
  pos : Nat
  bytes : List UInt8
  deriving DecidableEq, Repr

/-- Memory after writing `bs` at `p`. -/
def store (m : Mem) (p : Nat) (bs : List UInt8) : Mem := fun i =>
  if p ≤ i ∧ i < p + bs.length then ofList bs (i - p) else m i

/-- Memory after a program's writes, in order. -/
def storeAll (m : Mem) (ss : List Store) : Mem := ss.foldl (fun m s => store m s.pos s.bytes) m

@[simp] theorem storeAll_nil (m : Mem) : storeAll m [] = m := rfl
@[simp] theorem storeAll_cons (m : Mem) (s : Store) (ss : List Store) :
    storeAll m (s :: ss) = storeAll (store m s.pos s.bytes) ss := rfl

/-- Writes one after the other. -/
theorem storeAll_append (m : Mem) (ss ts : List Store) :
    storeAll m (ss ++ ts) = storeAll (storeAll m ss) ts := List.foldl_append

/-- What has been written stands there. -/
theorem at_store (m : Mem) (p : Nat) (bs : List UInt8) : At (store m p bs) p bs := by
  intro i hi
  simp [store, hi]

/-- A field beside a write keeps its value. -/
theorem le32_store {m : Mem} {p a : Nat} {bs : List UInt8} (h : a + 4 ≤ p ∨ p + bs.length ≤ a) :
    le32 (store m p bs) a = le32 m a := by
  have hbyte : ∀ i < 4, store m p bs (a + i) = m (a + i) := fun i hi => if_neg (by omega)
  simp only [le32, hbyte 1 (by decide), hbyte 2 (by decide), hbyte 3 (by decide),
    Nat.add_zero a ▸ hbyte 0 (by decide)]

/-- A write elsewhere leaves a field of two bytes alone. -/
theorem be16_store {m : Mem} {p a : Nat} {bs : List UInt8} (h : a + 2 ≤ p ∨ p + bs.length ≤ a) :
    be16 (store m p bs) a = be16 m a := by
  have h0 : store m p bs a = m a := if_neg (by omega)
  have h1 : store m p bs (a + 1) = m (a + 1) := if_neg (by omega)
  rw [be16, be16, h0, h1]

/-- **Frame rule.**  A write leaves the bytes beside it alone. -/
theorem At.store_of_disjoint {m : Mem} {a : Nat} {bs : List UInt8} (h : At m a bs) {p : Nat}
    {cs : List UInt8} (hd : p + cs.length ≤ a ∨ a + bs.length ≤ p) : At (store m p cs) a bs := by
  intro i hi
  rw [store, if_neg (by omega)]
  exact h i hi

/-- Writes that all keep clear of a byte string leave it alone. -/
theorem At.storeAll_of_disjoint {m : Mem} {a : Nat} {bs : List UInt8} (h : At m a bs)
    {ss : List Store}
    (hd : ∀ s ∈ ss, s.pos + s.bytes.length ≤ a ∨ a + bs.length ≤ s.pos) :
    At (storeAll m ss) a bs := by
  induction ss generalizing m with
  | nil => exact h
  | cons s ss ih =>
    rw [storeAll_cons]
    exact ih (h.store_of_disjoint (hd s (by simp))) fun t ht => hd t (by simp [ht])

/-- A write that no later write touches is what memory holds there at the end. -/
theorem at_storeAll (m : Mem) (pre : List Store) (s : Store) (post : List Store)
    (hd : ∀ t ∈ post, t.pos + t.bytes.length ≤ s.pos ∨ s.pos + s.bytes.length ≤ t.pos) :
    At (storeAll m (pre ++ s :: post)) s.pos s.bytes := by
  rw [storeAll_append, storeAll_cons]
  exact (at_store _ _ _).storeAll_of_disjoint hd

/-- Neither write touches a byte of the other. -/
def Store.Apart (s t : Store) : Prop :=
  s.pos + s.bytes.length ≤ t.pos ∨ t.pos + t.bytes.length ≤ s.pos

/-- Of writes that keep clear of each other, each is what memory holds there at the end. -/
theorem at_storeAll_of_mem (m : Mem) {ss : List Store} (h : ss.Pairwise Store.Apart) {s : Store}
    (hs : s ∈ ss) : At (storeAll m ss) s.pos s.bytes := by
  obtain ⟨pre, post, rfl⟩ := List.append_of_mem hs
  have hpost := List.pairwise_cons.mp (List.pairwise_append.mp h).2.1
  exact at_storeAll m pre s post fun t ht => (hpost.1 t ht).symm

/-- One field behind the other, from address `p` on. -/
def consecutive (p : Nat) : List (List UInt8) → List Store
  | [] => []
  | bs :: fields => ⟨p, bs⟩ :: consecutive (p + bs.length) fields

/-- Fields laid out from `p` on start at `p` or later. -/
theorem le_pos_of_mem_consecutive {p : Nat} {fields : List (List UInt8)} {s : Store}
    (h : s ∈ consecutive p fields) : p ≤ s.pos := by
  induction fields generalizing p with
  | nil => cases h
  | cons bs fields ih =>
    rw [consecutive, List.mem_cons] at h
    rcases h with rfl | h
    · exact Nat.le_refl p
    · have hle := ih h
      omega

/-- **Fields in a row.**  Writes one behind the other leave their fields as one byte string. -/
theorem at_storeAll_consecutive (m : Mem) (p : Nat) (fields : List (List UInt8)) :
    At (storeAll m (consecutive p fields)) p fields.flatten := by
  induction fields generalizing m p with
  | nil => exact fun i hi => absurd hi (Nat.not_lt_zero i)
  | cons bs fields ih =>
    rw [consecutive, storeAll_cons, List.flatten_cons, at_append]
    exact ⟨(at_store m p bs).storeAll_of_disjoint fun s hs => .inr (le_pos_of_mem_consecutive hs),
      ih _ _⟩

/-- Any part of a filled area holds the filling byte. -/
theorem at_store_replicate (m : Mem) (p : Nat) (b : UInt8) {n k j : Nat} (h : k + j ≤ n) :
    At (store m p (List.replicate n b)) (p + k) (List.replicate j b) := by
  intro i hi
  rw [List.length_replicate] at hi
  have hn : k + i < n := by omega
  have hpos : p + k + i - p = k + i := by omega
  simp [store, hpos, ofList, List.getD_eq_getElem?_getD, hi, hn]
  omega

/-- Writes of filling bytes leave a filled area as it is. -/
theorem At.storeAll_replicate {m : Mem} {a n : Nat} {b : UInt8} (h : At m a (List.replicate n b))
    {ss : List Store} (hb : ∀ s ∈ ss, ∀ c ∈ s.bytes, c = b) :
    At (storeAll m ss) a (List.replicate n b) := by
  induction ss generalizing m with
  | nil => exact h
  | cons s ss ih =>
    rw [storeAll_cons]
    refine ih (fun i hi => ?_) fun t ht => hb t (by simp [ht])
    rw [store]
    split_ifs with hin
    · -- the byte is written again
      have hlt : a + i - s.pos < s.bytes.length := by omega
      have hval : s.bytes[a + i - s.pos] = b := hb s (by simp) _ (List.getElem_mem hlt)
      rw [List.length_replicate] at hi
      simp [ofList, List.getD_eq_getElem?_getD, hlt, hval, hi]
    · exact h i hi

/-! ### Recording what is read -/

/-- A value together with the spans that were read to compute it, in order. -/
structure Logged (α : Type) where
  val : α
  reads : List Span

namespace Logged

instance : Monad Logged where
  pure a := ⟨a, []⟩
  bind x f := ⟨(f x.val).val, x.reads ++ (f x.val).reads⟩

variable {α β : Type}

@[simp] theorem val_pure (a : α) : (pure a : Logged α).val = a := rfl
@[simp] theorem reads_pure (a : α) : (pure a : Logged α).reads = [] := rfl
/-- The value of a computation that goes on. -/
@[simp] theorem val_bind (x : Logged α) (f : α → Logged β) :
    (x >>= f).val = (f x.val).val := rfl
/-- Its reads are those of both parts, in order. -/
@[simp] theorem reads_bind (x : Logged α) (f : α → Logged β) :
    (x >>= f).reads = x.reads ++ (f x.val).reads := rfl

/-- Run at most `n` rounds of a loop that records what it reads. -/
def iterate {σ : Type} (body : σ → Logged (ForInStep σ)) : Nat → σ → Logged (ForInStep σ)
  | 0, s => pure (.yield s)
  | n + 1, s => do
    match ← body s with
    | .done t => pure (.done t)
    | .yield t => iterate body n t

/-- Without the log of reads it is the plain loop. -/
theorem iterate_val {σ : Type} (body : σ → Logged (ForInStep σ)) (n : Nat) (s : σ) :
    (iterate body n s).val = WhileLoop.iterate (fun s => (body s).val) n s := by
  induction n generalizing s with
  | zero => rfl
  | succ n ih =>
    simp only [iterate, WhileLoop.iterate, val_bind]
    cases (body s).val with
    | done t => rfl
    | yield t => exact ih t

/-- Everything a loop reads is read in a round it gets to. -/
theorem exists_visits_of_mem_reads {σ : Type} {body : σ → Logged (ForInStep σ)} {n : Nat} {s : σ}
    {r : Span} (h : r ∈ (iterate body n s).reads) :
    ∃ t, WhileLoop.Visits (fun s => (body s).val) s t ∧ r ∈ (body t).reads := by
  induction n generalizing s with
  | zero => simp [iterate] at h
  | succ n ih =>
    simp only [iterate, reads_bind, List.mem_append] at h
    rcases h with h | h
    · exact ⟨s, .refl, h⟩
    · cases hb : (body s).val with
      | done t => simp [hb] at h
      | yield t =>
        rw [hb] at h
        obtain ⟨u, hu, hr⟩ := ih h
        exact ⟨u, .head hb hu, hr⟩

/-- A loop that ended has read what is read in any round it gets to. -/
theorem mem_reads_of_visits {σ : Type} {body : σ → Logged (ForInStep σ)} {n : Nat} {s t u : σ}
    {r : Span} (h : WhileLoop.iterate (fun s => (body s).val) n s = .done u)
    (ht : WhileLoop.Visits (fun s => (body s).val) s t) (hr : r ∈ (body t).reads) :
    r ∈ (iterate body n s).reads := by
  induction n generalizing s with
  | zero => simp at h
  | succ n ih =>
    simp only [iterate, reads_bind, List.mem_append]
    rcases Relation.ReflTransGen.cases_head ht with rfl | ⟨v, hv, ht⟩
    · exact .inl hr
    · rw [WhileLoop.Continues] at hv
      rw [WhileLoop.iterate_succ_yield n hv] at h
      rw [hv]
      exact .inr (ih h ht)

end Logged

/-- Load a byte. -/
def rd8 (m : Mem) (a : Nat) : Logged UInt8 := ⟨m a, [⟨a, 1⟩]⟩
/-- Load a 16-bit big-endian field. -/
def rdBe16 (m : Mem) (a : Nat) : Logged Nat := ⟨be16 m a, [⟨a, 2⟩]⟩
/-- Load a 32-bit big-endian field. -/
def rdBe32 (m : Mem) (a : Nat) : Logged Nat := ⟨be32 m a, [⟨a, 4⟩]⟩
/-- Load a 32-bit little-endian field. -/
def rdLe32 (m : Mem) (a : Nat) : Logged Nat := ⟨le32 m a, [⟨a, 4⟩]⟩

@[simp] theorem rd8_val (m : Mem) (a : Nat) : (rd8 m a).val = m a := rfl
@[simp] theorem rd8_reads (m : Mem) (a : Nat) : (rd8 m a).reads = [⟨a, 1⟩] := rfl
@[simp] theorem rdBe16_val (m : Mem) (a : Nat) : (rdBe16 m a).val = be16 m a := rfl
@[simp] theorem rdBe16_reads (m : Mem) (a : Nat) : (rdBe16 m a).reads = [⟨a, 2⟩] := rfl
@[simp] theorem rdBe32_val (m : Mem) (a : Nat) : (rdBe32 m a).val = be32 m a := rfl
@[simp] theorem rdBe32_reads (m : Mem) (a : Nat) : (rdBe32 m a).reads = [⟨a, 4⟩] := rfl
@[simp] theorem rdLe32_val (m : Mem) (a : Nat) : (rdLe32 m a).val = le32 m a := rfl
@[simp] theorem rdLe32_reads (m : Mem) (a : Nat) : (rdLe32 m a).reads = [⟨a, 4⟩] := rfl

end Bytes
