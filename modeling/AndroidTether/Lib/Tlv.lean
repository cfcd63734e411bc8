import AndroidTether.Lib.Bytes

namespace Tlv

open Bytes WhileLoop

/-!
# Option lists

Options are a one-byte tag, a one-byte length and that many value bytes.  Tag `0x00` is a
pad without a length, tag `0xFF` ends the list.

* `splitOptions` — the maximal list of complete options before the end tag or the first
  option that is cut off;
* `Reads`, `Stuck` — a list of options read from the front of some bytes, and bytes that no
  further option can be read from; `splitOptions_iff` — `splitOptions` is what is read until
  then;
* `complete` — no option before the end tag is cut off; `cutOption` — the one that is;
* `iterate_walk` — a loop that moves a cursor over options in memory folds over
  `splitOptions`, and then does what it does with an option that is cut off;
* `exists_visits_cut`, `visits_cutOption` — such a loop gets to the option that is cut off,
  and to no other.
-/

/-- The tag of a pad. -/
def padTag : UInt8 := 0x00
/-- The tag that ends the list. -/
def endTag : UInt8 := 0xFF

/-- One option. -/
structure Opt where
  tag : UInt8
  value : List UInt8
  deriving DecidableEq, Repr

/-- The complete options, up to the end tag or the first option that is cut off. -/
def splitOptions : List UInt8 → List Opt
  | [] => []
  | [_] => []
  | tag :: olen :: rest =>
    if tag = endTag then []
    else if tag = padTag then splitOptions (olen :: rest)
    else if olen.toNat ≤ rest.length then
      ⟨tag, rest.take olen.toNat⟩ :: splitOptions (rest.drop olen.toNat)
    else []
termination_by bs => bs.length
decreasing_by all_goals simp only [List.length_cons, List.length_drop]; omega

/-- Every option before the end tag, or before the end of the bytes, is complete. -/
def complete : List UInt8 → Bool
  | [] => true
  | [tag] => tag = endTag ∨ tag = padTag
  | tag :: olen :: rest =>
    if tag = endTag then true
    else if tag = padTag then complete (olen :: rest)
    else if olen.toNat ≤ rest.length then complete (rest.drop olen.toNat)
    else false
termination_by bs => bs.length
decreasing_by all_goals simp only [List.length_cons, List.length_drop]; omega

/-- An option whose value is cut off: its tag, the length it declares and the part of its
    value that is there. -/
structure CutOpt where
  tag : UInt8
  olen : Nat
  part : List UInt8
  deriving DecidableEq, Repr

/-- The option before the end tag whose value runs past the end of the bytes. -/
def cutOption : List UInt8 → Option CutOpt
  | [] => none
  | [_] => none
  | tag :: olen :: rest =>
    if tag = endTag then none
    else if tag = padTag then cutOption (olen :: rest)
    else if olen.toNat ≤ rest.length then cutOption (rest.drop olen.toNat)
    else some ⟨tag, olen.toNat, rest⟩
termination_by bs => bs.length
decreasing_by all_goals simp only [List.length_cons, List.length_drop]; omega

/-- No bytes, no options. -/
@[simp] theorem splitOptions_nil : splitOptions [] = [] := by rw [splitOptions]

/-- An end tag ends the options. -/
theorem splitOptions_end (bs : List UInt8) : splitOptions (endTag :: bs) = [] := by
  cases bs <;> simp [splitOptions]

/-- A pad is skipped. -/
theorem splitOptions_pad (bs : List UInt8) : splitOptions (padTag :: bs) = splitOptions bs := by
  cases bs with
  | nil => simp [splitOptions]
  | cons b bs => rw [splitOptions, if_neg (by decide), if_pos rfl]

/-- The first option of a list that starts with a complete one. -/
theorem splitOptions_opt {tag olen : UInt8} {rest : List UInt8} (hend : tag ≠ endTag)
    (hpad : tag ≠ padTag) (hfit : olen.toNat ≤ rest.length) :
    splitOptions (tag :: olen :: rest) =
      ⟨tag, rest.take olen.toNat⟩ :: splitOptions (rest.drop olen.toNat) := by
  rw [splitOptions, if_neg hend, if_neg hpad, if_pos hfit]

/-- Nothing is taken from an option that is cut off. -/
theorem splitOptions_cut {tag olen : UInt8} {rest : List UInt8} (hpad : tag ≠ padTag)
    (hcut : rest.length < olen.toNat) : splitOptions (tag :: olen :: rest) = [] := by
  by_cases hend : tag = endTag
  · rw [hend, splitOptions_end]
  · rw [splitOptions, if_neg hend, if_neg hpad, if_neg (by omega)]

/-! ### Reading options one by one -/

/-- The options `os` are read from the front of `bs`, and `tail` is left. -/
inductive Reads : List UInt8 → List Opt → List UInt8 → Prop
  | nil (tail : List UInt8) : Reads tail [] tail
  | pad {bs tail : List UInt8} {os : List Opt} : Reads bs os tail → Reads (padTag :: bs) os tail
  | opt {tag olen : UInt8} {value bs tail : List UInt8} {os : List Opt} :
      tag ≠ endTag → tag ≠ padTag → value.length = olen.toNat → Reads bs os tail →
        Reads (tag :: olen :: (value ++ bs)) (⟨tag, value⟩ :: os) tail

/-- Neither a pad nor a complete option stands at the front: the bytes are over, or start
    with the end tag, or with an option that is incomplete. -/
inductive Stuck : List UInt8 → Prop
  | empty : Stuck []
  | ended (bs : List UInt8) : Stuck (endTag :: bs)
  | lone {tag : UInt8} : tag ≠ padTag → Stuck [tag]
  | cut {tag olen : UInt8} {bs : List UInt8} : tag ≠ padTag → bs.length < olen.toNat →
      Stuck (tag :: olen :: bs)

/-- The options that have been read come first. -/
theorem Reads.splitOptions_eq {bs tail : List UInt8} {os : List Opt} (h : Reads bs os tail) :
    splitOptions bs = os ++ splitOptions tail := by
  induction h with
  | nil tail => rfl
  | pad _ ih => rw [splitOptions_pad, ih]
  | @opt tag olen value bs tail os hend hpad hlen _ ih =>
    have hfit : olen.toNat ≤ (value ++ bs).length := by
      rw [List.length_append]
      omega
    rw [splitOptions_opt hend hpad hfit, ← hlen, List.take_left, List.drop_left, ih,
      List.cons_append]

/-- More bytes behind what is left do not matter. -/
theorem Reads.append {bs tail : List UInt8} {os : List Opt} (h : Reads bs os tail)
    (more : List UInt8) : Reads (bs ++ more) os (tail ++ more) := by
  induction h with
  | nil tail => exact .nil _
  | pad _ ih => exact .pad ih
  | opt hend hpad hlen _ ih =>
    have hopt := Reads.opt hend hpad hlen ih
    rwa [← List.append_assoc] at hopt

/-- Where reading is stuck, there are no options. -/
theorem Stuck.splitOptions_eq {bs : List UInt8} (h : Stuck bs) : splitOptions bs = [] := by
  cases h with
  | empty => exact splitOptions_nil
  | ended bs => exact splitOptions_end bs
  | lone => simp [splitOptions]
  | cut hpad hcut => exact splitOptions_cut hpad hcut

/-- Reading can go on until nothing more can be read. -/
theorem exists_reads (bs : List UInt8) : ∃ os tail, Reads bs os tail ∧ Stuck tail := by
  induction bs using splitOptions.induct with
  | case1 => exact ⟨[], [], .nil [], .empty⟩
  | case2 tag =>
    by_cases hpad : tag = padTag
    · exact ⟨[], [], hpad ▸ .pad (.nil []), .empty⟩
    · exact ⟨[], [tag], .nil _, .lone hpad⟩
  | case3 olen rest => exact ⟨[], _, .nil _, .ended (olen :: rest)⟩
  | case4 olen rest _ ih =>
    obtain ⟨os, tail, hreads, hstuck⟩ := ih
    exact ⟨os, tail, .pad hreads, hstuck⟩
  | case5 tag olen rest hend hpad hfit ih =>
    obtain ⟨os, tail, hreads, hstuck⟩ := ih
    refine ⟨⟨tag, rest.take olen.toNat⟩ :: os, tail, ?_, hstuck⟩
    have hopt := Reads.opt hend hpad (List.length_take_of_le hfit) hreads
    rwa [List.take_append_drop] at hopt
  | case6 tag olen rest _ hpad hcut => exact ⟨[], _, .nil _, .cut hpad (Nat.not_le.mp hcut)⟩

/-- `splitOptions` is what is read until nothing more can be read. -/
theorem splitOptions_iff {bs : List UInt8} {os : List Opt} :
    splitOptions bs = os ↔ ∃ tail, Reads bs os tail ∧ Stuck tail := by
  constructor
  · rintro rfl
    obtain ⟨os, tail, hreads, hstuck⟩ := exists_reads bs
    have hos : splitOptions bs = os := by
      rw [hreads.splitOptions_eq, hstuck.splitOptions_eq, List.append_nil]
    exact ⟨tail, hos ▸ hreads, hstuck⟩
  · rintro ⟨tail, hreads, hstuck⟩
    rw [hreads.splitOptions_eq, hstuck.splitOptions_eq, List.append_nil]

/-- Nothing is cut off behind an end tag. -/
theorem cutOption_end (bs : List UInt8) : cutOption (endTag :: bs) = none := by
  cases bs <;> simp [cutOption]

/-- A pad before an option that is cut off. -/
theorem cutOption_pad (bs : List UInt8) : cutOption (padTag :: bs) = cutOption bs := by
  cases bs with
  | nil => simp [cutOption]
  | cons b bs => rw [cutOption, if_neg (by decide), if_pos rfl]

/-- A pad is complete. -/
theorem complete_pad (bs : List UInt8) : complete (padTag :: bs) = complete bs := by
  cases bs with
  | nil => simp [complete]
  | cons b bs => rw [complete, if_neg (by decide), if_pos rfl]

/-- An option is complete when its value is there and the rest is complete. -/
theorem complete_opt {tag olen : UInt8} {rest : List UInt8} (hend : tag ≠ endTag)
    (hpad : tag ≠ padTag) :
    complete (tag :: olen :: rest) = true ↔
      olen.toNat ≤ rest.length ∧ complete (rest.drop olen.toNat) = true := by
  rw [complete, if_neg hend, if_neg hpad]
  split
  · simp [*]
  · simp [*]

/-- Where no option is cut off, none is found. -/
theorem cutOption_of_complete (bs : List UInt8) (h : complete bs = true) : cutOption bs = none := by
  induction bs using complete.induct with
  | case1 => rw [cutOption]
  | case2 tag => rw [cutOption]
  | case3 olen rest => rw [cutOption_end]
  | case4 olen rest hne ih =>
    rw [complete_pad] at h
    rw [cutOption_pad, ih h]
  | case5 tag olen rest hend hpad hfit ih =>
    rw [cutOption, if_neg hend, if_neg hpad, if_pos hfit]
    exact ih ((complete_opt hend hpad).mp h).2
  | case6 tag olen rest hend hpad hcut => exact absurd ((complete_opt hend hpad).mp h).1 hcut

/-! ### Walking options in memory -/

variable {σ : Type} {m : Mem} {opts len : Nat}

/-- What stands at the cursor. -/
inductive Head where
  | stop
  | pad
  | opt
  | cut
  deriving DecidableEq, Repr

/-- What stands at cursor `i` of the `len` bytes at `opts`. -/
def headAt (m : Mem) (opts len i : Nat) : Head :=
  if len ≤ i ∨ m (opts + i) = endTag then .stop
  else if m (opts + i) = padTag then .pad
  else if i + 1 < len ∧ i + 2 + (m (opts + i + 1)).toNat ≤ len then .opt
  else .cut

/-- The scan stops at the end of the bytes, or at an end tag. -/
theorem headAt_eq_stop {i : Nat} :
    headAt m opts len i = .stop ↔ len ≤ i ∨ m (opts + i) = endTag := by
  unfold headAt
  split_ifs <;> simp_all

/-- The scan is at a pad. -/
theorem headAt_eq_pad {i : Nat} :
    headAt m opts len i = .pad ↔ i < len ∧ m (opts + i) = padTag := by
  have hne : padTag ≠ endTag := by decide
  unfold headAt
  grind

/-- The scan is at an option whose value is there. -/
theorem headAt_eq_opt {i : Nat} :
    headAt m opts len i = .opt ↔ m (opts + i) ≠ endTag ∧ m (opts + i) ≠ padTag ∧
      i + 1 < len ∧ i + 2 + (m (opts + i + 1)).toNat ≤ len := by
  unfold headAt
  grind

/-- The scan is at an option that is cut off. -/
theorem headAt_eq_cut {i : Nat} :
    headAt m opts len i = .cut ↔ i < len ∧ m (opts + i) ≠ endTag ∧ m (opts + i) ≠ padTag ∧
      ¬ (i + 1 < len ∧ i + 2 + (m (opts + i + 1)).toNat ≤ len) := by
  unfold headAt
  grind

/-- Unless it stops, the scan is within the bytes. -/
theorem lt_of_headAt {i : Nat} (h : headAt m opts len i ≠ .stop) : i < len := by
  by_contra hi
  exact h (headAt_eq_stop.mpr (.inl (by omega)))

/-- The bytes from the cursor on. -/
def restAt (m : Mem) (opts len i : Nat) : List UInt8 := slice m (opts + i) (len - i)

/-- The option at the cursor, if there is one. -/
def optAt (m : Mem) (opts i : Nat) : Opt :=
  ⟨m (opts + i), slice m (opts + i + 2) (m (opts + i + 1)).toNat⟩

/-- The byte the scan is at, and the rest. -/
theorem restAt_cons {i : Nat} (h : i < len) :
    restAt m opts len i = m (opts + i) :: restAt m opts len (i + 1) := by
  rw [restAt, show len - i = len - (i + 1) + 1 by omega, slice_succ, restAt, Nat.add_assoc]

/-- The options from the cursor on, by what stands there. -/
theorem splitOptions_restAt (m : Mem) (opts len i : Nat) :
    splitOptions (restAt m opts len i) =
      match headAt m opts len i with
      | .stop => []
      | .cut => []
      | .pad => splitOptions (restAt m opts len (i + 1))
      | .opt => optAt m opts i ::
          splitOptions (restAt m opts len (i + 2 + (m (opts + i + 1)).toNat)) := by
  unfold headAt
  by_cases hi : i < len
  · rw [restAt_cons hi]
    by_cases hend : m (opts + i) = endTag
    · simp only [hend, or_true, if_true, splitOptions_end]
    · rw [if_neg (by simp [hend, hi])]
      by_cases hpad : m (opts + i) = padTag
      · simp only [hpad, if_true, splitOptions_pad]
      · rw [if_neg hpad]
        by_cases hi' : i + 1 < len
        · rw [restAt_cons hi', ← Nat.add_assoc]
          by_cases hfit : i + 2 + (m (opts + i + 1)).toNat ≤ len
          · -- a complete option: its value, and the rest behind it
            rw [if_pos ⟨hi', hfit⟩, splitOptions_opt hend hpad (by simp [restAt]; omega)]
            simp only [restAt, optAt]
            rw [take_slice (by omega), drop_slice (by omega)]
            congr 3 <;> omega
          · rw [if_neg (fun h => hfit h.2), splitOptions_cut hpad (by simp [restAt]; omega)]
        · -- a tag without a length
          rw [if_neg (fun h => hi' h.1), restAt, show len - (i + 1) = 0 by omega, slice_zero]
          simp only [splitOptions]
  · rw [if_pos (.inl (by omega)), restAt, show len - i = 0 by omega, slice_zero, splitOptions_nil]

/-- The option at the cursor, as far as the bytes go. -/
def cutAt (m : Mem) (opts len i : Nat) : CutOpt :=
  ⟨m (opts + i), (m (opts + i + 1)).toNat, slice m (opts + i + 2) (len - (i + 2))⟩

/-- The option that is cut off, from the cursor on, by what stands there. -/
theorem cutOption_restAt (m : Mem) (opts len i : Nat) :
    cutOption (restAt m opts len i) =
      match headAt m opts len i with
      | .stop => none
      | .cut => if i + 1 < len then some (cutAt m opts len i) else none
      | .pad => cutOption (restAt m opts len (i + 1))
      | .opt => cutOption (restAt m opts len (i + 2 + (m (opts + i + 1)).toNat)) := by
  unfold headAt
  by_cases hi : i < len
  · rw [restAt_cons hi]
    by_cases hend : m (opts + i) = endTag
    · simp only [hend, or_true, if_true, cutOption_end]
    · rw [if_neg (by simp [hend, hi])]
      by_cases hpad : m (opts + i) = padTag
      · simp only [hpad, if_true, cutOption_pad]
      · rw [if_neg hpad]
        by_cases hi' : i + 1 < len
        · rw [restAt_cons hi', ← Nat.add_assoc]
          by_cases hfit : i + 2 + (m (opts + i + 1)).toNat ≤ len
          · rw [if_pos ⟨hi', hfit⟩, cutOption, if_neg hend, if_neg hpad,
              if_pos (by simp [restAt]; omega)]
            simp only [restAt]
            rw [drop_slice (by omega)]
            congr 2 <;> omega
          · -- the value is cut off
            rw [if_neg (fun h => hfit h.2), cutOption, if_neg hend, if_neg hpad,
              if_neg (by simp [restAt]; omega)]
            simp only [if_pos hi', cutAt, restAt, Nat.add_assoc]
        · -- a tag without a length
          rw [if_neg (fun h => hi' h.1), restAt, show len - (i + 1) = 0 by omega, slice_zero]
          simp [cutOption, hi']
  · rw [if_pos (.inl (by omega)), restAt, show len - i = 0 by omega, slice_zero, cutOption]

/-- **Walk.**  A loop that stops at the end, steps over pads, and runs `f` on every complete
    option before it moves past it, folds `f` over the options.  At an option whose value is
    cut off it does `g` and ends with that, and a tag without a length ends it. -/
theorem iterate_walk {body : Nat × σ → ForInStep (Nat × σ)} {f : σ → Opt → σ} {g : σ → CutOpt → σ}
    (hstop : ∀ i v, headAt m opts len i = .stop → ∃ j, body (i, v) = .done (j, v))
    (hpad : ∀ i v, headAt m opts len i = .pad → body (i, v) = .yield (i + 1, v))
    (hopt : ∀ i v, headAt m opts len i = .opt →
      body (i, v) = .yield (i + 2 + (m (opts + i + 1)).toNat, f v (optAt m opts i)))
    (hcut : ∀ i v, headAt m opts len i = .cut → i + 1 < len →
      ∃ j, iterate body 2 (i, v) = .done (j, g v (cutAt m opts len i)))
    (hlone : ∀ i v, headAt m opts len i = .cut → len ≤ i + 1 → ∃ j, body (i, v) = .done (j, v))
    {i n : Nat} (hn : len - i < n) (v : σ) :
    ∃ j, iterate body n (i, v) =
      .done (j, (cutOption (restAt m opts len i)).elim
        ((splitOptions (restAt m opts len i)).foldl f v)
        (g ((splitOptions (restAt m opts len i)).foldl f v))) := by
  induction n generalizing i v with
  | zero => omega
  | succ n ih =>
    rw [splitOptions_restAt, cutOption_restAt]
    cases hhead : headAt m opts len i with
    | stop =>
      obtain ⟨j, hj⟩ := hstop i v hhead
      exact ⟨j, iterate_succ_done n hj⟩
    | cut =>
      have hi := lt_of_headAt (by rw [hhead]; decide : headAt m opts len i ≠ .stop)
      by_cases hi' : i + 1 < len
      · -- two rounds: one for the option, one that finds the end
        obtain ⟨j, hj⟩ := hcut i v hhead hi'
        exact ⟨j, by simpa [hi'] using iterate_done_mono (by omega : 2 ≤ n + 1) hj⟩
      · obtain ⟨j, hj⟩ := hlone i v hhead (by omega)
        exact ⟨j, by simpa [hi'] using iterate_succ_done n hj⟩
    | pad =>
      have hi := lt_of_headAt (by rw [hhead]; decide : headAt m opts len i ≠ .stop)
      rw [iterate_succ_yield n (hpad i v hhead)]
      exact ih (by omega) v
    | opt =>
      have hi := lt_of_headAt (by rw [hhead]; decide : headAt m opts len i ≠ .stop)
      rw [iterate_succ_yield n (hopt i v hhead)]
      exact ih (by omega) (f v (optAt m opts i))

/-! ### The option that is cut off -/

/-- A loop that steps over pads and complete options gets to the option that is cut off. -/
theorem exists_visits_cut {body : Nat × σ → ForInStep (Nat × σ)}
    (hpad : ∀ i v, headAt m opts len i = .pad → ∃ w, body (i, v) = .yield (i + 1, w))
    (hopt : ∀ i v, headAt m opts len i = .opt →
      ∃ w, body (i, v) = .yield (i + 2 + (m (opts + i + 1)).toNat, w))
    {i : Nat} {v : σ} {c : CutOpt} (hc : cutOption (restAt m opts len i) = some c) :
    ∃ t, Visits body (i, v) t ∧ headAt m opts len t.1 = .cut ∧ t.1 + 1 < len ∧
      c = cutAt m opts len t.1 := by
  -- on the number of bytes that are left
  induction hleft : len - i using Nat.strong_induction_on generalizing i v with
  | _ left ih =>
    rw [cutOption_restAt] at hc
    cases hhead : headAt m opts len i with
    | stop => simp [hhead] at hc
    | cut =>
      simp only [hhead] at hc
      split at hc
      · next hi => exact ⟨(i, v), .refl, hhead, hi, (Option.some.inj hc).symm⟩
      · cases hc
    | pad =>
      simp only [hhead] at hc
      have hi := lt_of_headAt (by rw [hhead]; decide : headAt m opts len i ≠ .stop)
      obtain ⟨w, hw⟩ := hpad i v hhead
      obtain ⟨t, ht, hcut⟩ := ih _ (by omega) hc rfl
      exact ⟨t, .head hw ht, hcut⟩
    | opt =>
      simp only [hhead] at hc
      have hi := lt_of_headAt (by rw [hhead]; decide : headAt m opts len i ≠ .stop)
      obtain ⟨w, hw⟩ := hopt i v hhead
      obtain ⟨t, ht, hcut⟩ := ih _ (by omega) hc rfl
      exact ⟨t, .head hw ht, hcut⟩

/-- A loop that goes on over pads and over options, complete or cut off, only gets to the one
    option that is cut off. -/
theorem visits_cutOption {body : Nat × σ → ForInStep (Nat × σ)}
    (hnext : ∀ i v t, body (i, v) = .yield t →
      (headAt m opts len i = .pad ∧ t.1 = i + 1) ∨
        (i + 1 < len ∧ t.1 = i + 2 + (m (opts + i + 1)).toNat ∧
          (headAt m opts len i = .opt ∨ headAt m opts len i = .cut)))
    {i : Nat} {v : σ} {t : Nat × σ} (ht : Visits body (i, v) t)
    (hcut : headAt m opts len t.1 = .cut) (hlen : t.1 + 1 < len) :
    cutOption (restAt m opts len i) = some (cutAt m opts len t.1) := by
  -- past an option that is cut off nothing is left
  have hinv : t.1 < len → cutOption (restAt m opts len t.1) = cutOption (restAt m opts len i) := by
    refine ht.invariant
      (I := fun u => u.1 < len → cutOption (restAt m opts len u.1) = cutOption (restAt m opts len i))
      (fun a b ha hab hb => ?_) fun _ => rfl
    rcases hnext a.1 a.2 b hab with ⟨hhead, heq⟩ | ⟨hi, heq, hhead | hhead⟩
    · rw [← ha (lt_of_headAt (by rw [hhead]; decide)), heq, cutOption_restAt m opts len a.1]
      simp only [hhead]
    · rw [← ha (by omega), heq, cutOption_restAt m opts len a.1]
      simp only [hhead]
    · have := (headAt_eq_cut.mp hhead).2.2.2
      omega
  rw [← hinv (by omega), cutOption_restAt]
  simp [hcut, hlen]

end Tlv
