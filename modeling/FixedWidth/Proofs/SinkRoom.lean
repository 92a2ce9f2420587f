import FixedWidth.Sink

/-!
# What a sink takes

A sink is written to by many calls, each of which may be cut short or interrupted.  Seen from
outside only its room matters: of the bytes written it takes as many as it has room for, in order,
and it refuses exactly if that is not all of them.
-/

namespace FixedWidth

/-- How a writer is told that the sink takes no more. -/
def AtLimit.fault : AtLimit → StreamFault
  | .fails cause => cause
  | .takesNothing => .nothingTaken

def Mark.bytes (m : Mark) : List UInt8 :=
  (m.text?.getD "").toUTF8.data.toList

def Row.rendering (width : Nat) (inset : Bool) (r : Row) : List UInt8 :=
  (r.marks width inset).flatMap Mark.bytes

namespace Sink

/-- The sink has taken these bytes more, and nothing else about it that a writer can see has
changed. -/
structure Took (k : Sink) (bytes : List UInt8) (next : Sink) : Prop where
  taken : next.taken.toList = k.taken.toList ++ bytes
  limit : next.limit = k.limit
  atLimit : next.atLimit = k.atLimit
  perCall : next.perCall = k.perCall

/-- The part of the bytes for which the sink has room. -/
def fitting (k : Sink) (bytes : List UInt8) : List UInt8 :=
  bytes.take (upTo bytes.length k.room)

def answer (k : Sink) (n : Nat) : Option StreamFault :=
  if upTo n k.room < n then some k.atLimit.fault else none

/-- Some bytes have been written: the sink took what it had room for, and the writer was told. -/
structure Wrote (k : Sink) (bytes : List UInt8) (fault : Option StreamFault) (next : Sink) :
    Prop where
  fault_eq : fault = k.answer bytes.length
  took : k.Took (k.fitting bytes) next

@[simp] theorem upTo_none (n : Nat) : upTo n none = n := rfl

@[simp] theorem upTo_some (n bound : Nat) : upTo n (some bound) = min n bound := rfl

theorem upTo_le (n : Nat) (bound : Option Nat) : upTo n bound ≤ n := by
  cases bound with
  | none => exact Nat.le_refl n
  | some b => exact Nat.min_le_left n b

theorem upTo_pos {n : Nat} {bound : Option Nat} (hn : 0 < n) (hb : bound ≠ some 0) :
    0 < upTo n bound := by
  cases bound with
  | none => exact hn
  | some b =>
      have hb' : b ≠ 0 := fun h => hb (congrArg some h)
      simp only [upTo_some]
      omega

/-! ## A single call -/

theorem Took.room {k next : Sink} {bytes : List UInt8} (h : k.Took bytes next) :
    next.room = k.room.map (· - bytes.length) := by
  have hsize : next.taken.size = k.taken.size + bytes.length := by
    rw [← Array.length_toList, h.taken, List.length_append, Array.length_toList]
  cases hl : k.limit with
  | none => simp [Sink.room, h.limit, hl]
  | some limit =>
      simp only [Sink.room, h.limit, hl, hsize, Option.map_some, Option.some.injEq]
      omega

theorem Took.trans {k next last : Sink} {as bs : List UInt8} (h : k.Took as next)
    (h' : next.Took bs last) : k.Took (as ++ bs) last where
  taken := by rw [h'.taken, h.taken, List.append_assoc]
  limit := h'.limit.trans h.limit
  atLimit := h'.atLimit.trans h.atLimit
  perCall := h'.perCall.trans h.perCall

/-- A writer does not see how many calls it took. -/
theorem Took.ofCalls (k : Sink) (calls : Nat) : k.Took [] { k with calls } where
  taken := (List.append_nil _).symm
  limit := rfl
  atLimit := rfl
  perCall := rfl

theorem Took.refl (k : Sink) : k.Took [] k :=
  Took.ofCalls k k.calls

theorem took_call_interrupted {k next : Sink} {bytes : List UInt8}
    (h : k.call bytes = (.interrupted, next)) : k.Took [] next := by
  have hbusy := isBusy_of_call h
  simp only [call, hbusy, if_true, Prod.mk.injEq, true_and] at h
  subst h
  exact Took.ofCalls k _

theorem took_call_refused {k next : Sink} {bytes : List UInt8} {cause : StreamFault}
    (h : k.call bytes = (.refused cause, next)) :
    k.room = some 0 ∧ cause = k.atLimit.fault ∧ k.Took [] next := by
  unfold call at h
  split at h
  · cases h
  · split at h
    · rename_i hfull
      have hroom : k.room = some 0 := by simpa [isFull] using hfull
      split at h
      · rename_i c hat
        cases h
        exact ⟨hroom, by rw [hat]; rfl, Took.ofCalls k _⟩
      · cases h
    · cases h

/-- A call that takes nothing shows that the sink is full, because a call may always take a byte
where there is room. -/
theorem took_call_nothing {k next : Sink} {bytes : List UInt8} (hcall : k.perCall ≠ some 0)
    (hbytes : bytes ≠ []) (h : k.call bytes = (.took 0, next)) :
    k.room = some 0 ∧ .nothingTaken = k.atLimit.fault ∧ k.Took [] next := by
  unfold call at h
  split at h
  · cases h
  · split at h
    · rename_i hfull
      have hroom : k.room = some 0 := by simpa [isFull] using hfull
      split at h
      · cases h
      · rename_i hat
        cases h
        exact ⟨hroom, by rw [hat]; rfl, Took.ofCalls k _⟩
    · rename_i hfull
      have hroom : k.room ≠ some 0 := by simpa [isFull] using hfull
      have hlen : 0 < bytes.length := List.length_pos_iff.mpr hbytes
      have hpos := upTo_pos (upTo_pos hlen hcall) hroom
      simp only [Prod.mk.injEq, Reply.took.injEq] at h
      omega

theorem took_call {k next : Sink} {bytes : List UInt8} {n : Nat}
    (h : k.call bytes = (.took (n + 1), next)) :
    n + 1 ≤ bytes.length ∧ upTo (n + 1) k.room = n + 1 ∧ k.Took (bytes.take (n + 1)) next := by
  unfold call at h
  split at h
  · cases h
  · split at h
    · split at h <;> cases h
    · simp only [Prod.mk.injEq, Reply.took.injEq] at h
      obtain ⟨hn, rfl⟩ := h
      refine ⟨?_, ?_, ?_⟩
      · have h₁ := upTo_le (upTo bytes.length k.perCall) k.room
        have h₂ := upTo_le bytes.length k.perCall
        omega
      · rw [← hn]
        cases k.room with
        | none => rfl
        | some r =>
            simp only [upTo_some]
            omega
      · rw [hn]
        exact ⟨by simp, rfl, rfl, rfl⟩

/-! ## Writing -/

theorem Wrote.nil (k : Sink) : k.Wrote [] none k where
  fault_eq := by simp [answer]
  took := by simpa [fitting] using Took.refl k

theorem Wrote.of_full {k next : Sink} {bytes : List UInt8} (hbytes : bytes ≠ [])
    (hroom : k.room = some 0) (h : k.Took [] next) :
    k.Wrote bytes (some k.atLimit.fault) next where
  fault_eq := by
    have hlen : 0 < bytes.length := List.length_pos_iff.mpr hbytes
    simp [answer, hroom, hlen]
  took := by simpa [fitting, hroom] using h

/-- Bytes that fit may be written ahead of others. -/
theorem Wrote.append {k next last : Sink} {as bs : List UInt8} {fault : Option StreamFault}
    (hfit : upTo as.length k.room = as.length) (h : k.Took as next)
    (h' : next.Wrote bs fault last) : k.Wrote (as ++ bs) fault last := by
  have hroom := h.room
  cases hk : k.room with
  | none =>
      rw [hk, Option.map_none] at hroom
      refine ⟨?_, ?_⟩
      · rw [h'.fault_eq]
        simp [answer, hroom, hk]
      · have hlast := h.trans h'.took
        simp only [fitting, hroom, hk, upTo_none, List.take_length] at hlast ⊢
        exact hlast
  | some r =>
      rw [hk, Option.map_some] at hroom
      rw [hk, upTo_some] at hfit
      have hle : as.length ≤ r := by omega
      refine ⟨?_, ?_⟩
      · rw [h'.fault_eq]
        simp only [answer, hroom, hk, upTo_some, List.length_append, h.atLimit]
        congr 1
        simp only [eq_iff_iff]
        omega
      · have hlast := h.trans h'.took
        simp only [fitting, hroom, hk, upTo_some, List.length_append] at hlast ⊢
        have htake : as.take (min (as.length + bs.length) r) = as := by
          apply List.take_of_length_le
          omega
        have hrest : min (as.length + bs.length) r - as.length =
            min bs.length (r - as.length) := by
          omega
        rw [List.take_append, htake, hrest]
        exact hlast

/-- Of the bytes written a sink takes what it has room for, however its calls go. -/
theorem wrote_write (k : Sink) (hcall : k.perCall ≠ some 0) (bytes : List UInt8) :
    k.Wrote bytes (k.write bytes).1 (k.write bytes).2 := by
  fun_induction write k bytes with
  | case1 k => exact Wrote.nil k
  | case2 k b bytes next h ih =>
      have htook := took_call_interrupted h
      have hnext := ih (by rw [htook.perCall]; exact hcall)
      have hzero : upTo ([] : List UInt8).length k.room = ([] : List UInt8).length :=
        Nat.le_zero.mp (upTo_le 0 k.room)
      simpa using Wrote.append hzero htook hnext
  | case3 k b bytes cause next h =>
      obtain ⟨hroom, rfl, htook⟩ := took_call_refused h
      exact Wrote.of_full (List.cons_ne_nil b bytes) hroom htook
  | case4 k b bytes next h =>
      obtain ⟨hroom, hfault, htook⟩ := took_call_nothing hcall (List.cons_ne_nil b bytes) h
      rw [hfault]
      exact Wrote.of_full (List.cons_ne_nil b bytes) hroom htook
  | case5 k b bytes n next h ih =>
      obtain ⟨hle, hfit, htook⟩ := took_call h
      have hnext := ih (by rw [htook.perCall]; exact hcall)
      have hlen : ((b :: bytes).take (n + 1)).length = n + 1 := List.length_take_of_le hle
      have happ := Wrote.append (by rw [hlen]; exact hfit) htook hnext
      simpa [List.take_append_drop] using happ

/-- Once the sink has refused, whatever was to follow is not written. -/
theorem Wrote.append_of_fault {k next : Sink} {as : List UInt8} {cause : StreamFault}
    (bs : List UInt8) (h : k.Wrote as (some cause) next) :
    k.Wrote (as ++ bs) (some cause) next := by
  have hfault := h.fault_eq
  cases hk : k.room with
  | none => simp [answer, hk] at hfault
  | some r =>
      by_cases hr : r < as.length
      · have hmin : min as.length r < as.length := by omega
        simp only [answer, hk, upTo_some, hmin, if_true] at hfault
        refine ⟨?_, ?_⟩
        · have hmin' : min (as.length + bs.length) r < as.length + bs.length := by omega
          simp only [answer, hk, upTo_some, List.length_append, hmin', if_true]
          exact hfault
        · have htook := h.took
          have hlen : min (as.length + bs.length) r = min as.length r := by omega
          simp only [fitting, hk, upTo_some, List.length_append, hlen] at htook ⊢
          rw [List.take_append_of_le_length (by omega)]
          exact htook
      · have hmin : ¬ min as.length r < as.length := by omega
        simp [answer, hk, hmin] at hfault

theorem Wrote.append_of_none {k next last : Sink} {as bs : List UInt8}
    {fault : Option StreamFault} (h : k.Wrote as none next) (h' : next.Wrote bs fault last) :
    k.Wrote (as ++ bs) fault last := by
  have hfit : upTo as.length k.room = as.length := by
    have hfault := h.fault_eq
    have hle := upTo_le as.length k.room
    by_cases hlt : upTo as.length k.room < as.length
    · simp [answer, hlt] at hfault
    · omega
  have htook := h.took
  rw [fitting, hfit, List.take_length] at htook
  exact Wrote.append hfit htook h'

theorem answer_eq_some_iff {k : Sink} {n : Nat} {cause : StreamFault} :
    k.answer n = some cause ↔
      (∃ room, k.room = some room ∧ room < n) ∧ cause = k.atLimit.fault := by
  cases hk : k.room with
  | none => simp [answer, hk]
  | some r =>
      have hmin : min n r < n ↔ r < n := by omega
      simp only [answer, hk, upTo_some, hmin, Option.some.injEq, exists_eq_left']
      by_cases hr : r < n
      · simp [hr, eq_comm]
      · simp [hr]

theorem Wrote.room_eq_zero {k next : Sink} {bytes : List UInt8} {cause : StreamFault}
    (h : k.Wrote bytes (some cause) next) : next.room = some 0 := by
  obtain ⟨⟨r, hr, hlt⟩, _⟩ := answer_eq_some_iff.mp h.fault_eq.symm
  have hlen : (k.fitting bytes).length = r := by
    simp only [fitting, hr, upTo_some, List.length_take]
    omega
  rw [h.took.room, hr, Option.map_some, hlen, Nat.sub_self]

theorem Wrote.took_nil_of_full {k next : Sink} {bytes : List UInt8} {fault : Option StreamFault}
    (h : k.Wrote bytes fault next) (hroom : k.room = some 0) : k.Took [] next := by
  simpa [fitting, hroom] using h.took

/-- After a sink has refused, more may be tried. -/
theorem Wrote.append_of_full {k next last : Sink} {as : List UInt8} {cause : StreamFault}
    (bs : List UInt8) (h : k.Wrote as (some cause) next) (h' : next.Took [] last) :
    k.Wrote (as ++ bs) (some cause) last where
  fault_eq := (h.append_of_fault bs).fault_eq
  took := by simpa using (h.append_of_fault bs).took.trans h'

/-! ## Drawing marks -/

/-- Marks are drawn as their bytes are written one after another, if each of them has a text. -/
theorem wrote_draw (k : Sink) (hcall : k.perCall ≠ some 0) (marks : List Mark)
    (hmarks : ∀ m ∈ marks, m.text?.isSome) :
    ∃ fault, (k.draw marks).1 = fault.map Failure.stream ∧
      k.Wrote (marks.flatMap Mark.bytes) fault (k.draw marks).2 := by
  induction marks generalizing k with
  | nil => exact ⟨none, rfl, Wrote.nil k⟩
  | cons m marks ih =>
      obtain ⟨s, hs⟩ := Option.isSome_iff_exists.mp (hmarks m List.mem_cons_self)
      have hbytes : m.bytes = s.toUTF8.data.toList := by simp [Mark.bytes, hs]
      have hwrote := wrote_write k hcall m.bytes
      simp only [draw, hs, ← hbytes, List.flatMap_cons]
      rcases hw : k.write m.bytes with ⟨_ | cause, next⟩
      · rw [hw] at hwrote
        have hnext : next.perCall ≠ some 0 := by
          rw [hwrote.took.perCall]
          exact hcall
        obtain ⟨fault, hfault, hrest⟩ :=
          ih next hnext fun x hx => hmarks x (List.mem_cons_of_mem m hx)
        exact ⟨fault, hfault, hwrote.append_of_none hrest⟩
      · rw [hw] at hwrote
        exact ⟨some cause, rfl, hwrote.append_of_fault _⟩

/-! ## Drawing to the end -/

/-- Bytes that were not refused have been taken, also by a sink that may refuse a call without
being full. -/
theorem took_write_of_none {k next : Sink} {bytes : List UInt8} (h : k.write bytes = (none, next)) :
    k.Took bytes next := by
  fun_induction write k bytes with
  | case1 k =>
      cases h
      exact Took.refl _
  | case2 k b bytes busy hcall ih => exact (took_call_interrupted hcall).trans (ih h)
  | case3 k b bytes cause busy hcall => cases h
  | case4 k b bytes busy hcall => cases h
  | case5 k b bytes n busy hcall ih =>
      have htook := (took_call hcall).2.2.trans (ih h)
      rwa [List.take_succ_cons, List.cons_append, List.take_append_drop] at htook

theorem took_draw_of_none {k next : Sink} {marks : List Mark} (h : k.draw marks = (none, next)) :
    (∀ m ∈ marks, m.text?.isSome) ∧ k.Took (marks.flatMap Mark.bytes) next := by
  induction marks generalizing k with
  | nil =>
      cases h
      exact ⟨by simp, Took.refl _⟩
  | cons m marks ih =>
      rw [draw] at h
      cases hm : m.text? with
      | none =>
          rw [hm] at h
          cases h
      | some s =>
          have hbytes : m.bytes = s.toUTF8.data.toList := by simp [Mark.bytes, hm]
          simp only [hm] at h
          rcases hwrite : k.write s.toUTF8.data.toList with ⟨_ | cause, mid⟩
          · rw [hwrite] at h
            obtain ⟨hmarks, hrest⟩ := ih h
            refine ⟨List.forall_mem_cons.2 ⟨by simp [hm], hmarks⟩, ?_⟩
            rw [List.flatMap_cons, hbytes]
            exact (took_write_of_none hwrite).trans hrest
          · rw [hwrite] at h
            cases h

end Sink

end FixedWidth
