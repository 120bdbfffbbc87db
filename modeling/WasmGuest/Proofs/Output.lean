import WasmGuest.Output

/-!
# Writing in pieces

Text is written in pieces: each piece is offered to the sink until the sink took
all of it or refused.  A sink takes what fits; once it is full it refuses by a
fault, or by taking nothing.

* `Output.offer` is one offer, `Output.offerAll` one piece, and
  `Output.writePieces` one piece after the other.
* `writePieces_eq_write`: it makes no difference to what is written, or to the
  fault, where the pieces begin and end.
-/

namespace WasmGuest.Output

section Write

variable {written bs cs : List UInt8} {room : Nat} {whenFull : WriteFault}

/-! ## Writing at once -/

theorem write_unlimited :
    write ⟨written, none, whenFull⟩ bs = (.ok (), ⟨written ++ bs, none, whenFull⟩) := rfl

theorem write_of_le (h : bs.length ≤ room) :
    write ⟨written, some room, whenFull⟩ bs =
      (.ok (), ⟨written ++ bs, some (room - bs.length), whenFull⟩) := by
  simp only [write, if_pos h]

theorem write_of_lt (h : room < bs.length) :
    write ⟨written, some room, whenFull⟩ bs =
      (.error whenFull, ⟨written ++ bs.take room, some 0, whenFull⟩) := by
  simp only [write, if_neg (Nat.not_le_of_lt h)]

theorem write_nil (o : Output) : o.write [] = (.ok (), o) := by
  obtain ⟨written, room, whenFull⟩ := o
  cases room with
  | none => rw [write_unlimited, List.append_nil]
  | some room => rw [write_of_le (Nat.zero_le room), List.append_nil, List.length_nil, Nat.sub_zero]

/-- Bytes that are written at once may as well be written in two parts. -/
theorem write_append (o : Output) (bs cs : List UInt8) :
    o.write (bs ++ cs) =
      match o.write bs with
      | (.error e, o) => (.error e, o)
      | (.ok (), o) => o.write cs := by
  obtain ⟨written, room, whenFull⟩ := o
  cases room with
  | none => simp only [write_unlimited, List.append_assoc]
  | some room =>
    have hlength : (bs ++ cs).length = bs.length + cs.length := List.length_append
    by_cases hfirst : bs.length ≤ room
    · rw [write_of_le hfirst]
      by_cases hboth : (bs ++ cs).length ≤ room
      · have hsecond : cs.length ≤ room - bs.length := by omega
        simp only [write_of_le hboth, write_of_le hsecond, List.append_assoc, hlength,
          Nat.sub_add_eq]
      · have hsecond : room - bs.length < cs.length := by omega
        simp only [write_of_lt (Nat.lt_of_not_le hboth), write_of_lt hsecond, List.take_append,
          List.take_of_length_le hfirst, List.append_assoc]
    · have hfirst := Nat.lt_of_not_le hfirst
      have hboth : room < (bs ++ cs).length := by omega
      rw [write_of_lt hfirst, write_of_lt hboth,
        List.take_append_of_le_length (Nat.le_of_lt hfirst)]

end Write

/-! ## Writing in pieces -/

/-- Offer bytes: some of them are taken, or there is a fault. -/
def offer (o : Output) (bs : List UInt8) : Except WriteFault Nat × Output :=
  match o with
  | ⟨written, none, whenFull⟩ => (.ok bs.length, ⟨written ++ bs, none, whenFull⟩)
  | ⟨_, some 0, .brokenPipe⟩ => (.error .brokenPipe, o)
  | ⟨_, some 0, .writeZero⟩ => (.ok 0, o)
  | ⟨written, some (room + 1), whenFull⟩ =>
    let taken := min (room + 1) bs.length
    (.ok taken, ⟨written ++ bs.take taken, some (room + 1 - taken), whenFull⟩)

/-- Offer bytes until all are taken.  It is a fault to take none. -/
def offerAll (o : Output) : List UInt8 → Except WriteFault Unit × Output
  | [] => (.ok (), o)
  | b :: bs =>
    match o.offer (b :: bs) with
    | (.error e, o) => (.error e, o)
    | (.ok 0, o) => (.error .writeZero, o)
    | (.ok (n + 1), o) => o.offerAll (bs.drop n)
termination_by bs => bs.length
decreasing_by
  rw [List.length_drop, List.length_cons]
  omega

/-- Write pieces one after the other, up to the first fault. -/
def writePieces (o : Output) : List (List UInt8) → Except WriteFault Unit × Output
  | [] => (.ok (), o)
  | p :: ps =>
    match o.offerAll p with
    | (.error e, o) => (.error e, o)
    | (.ok (), o) => o.writePieces ps

/-- A full sink refuses. -/
theorem offerAll_of_full (written : List UInt8) (whenFull : WriteFault) {bs : List UInt8}
    (hbs : bs ≠ []) :
    offerAll ⟨written, some 0, whenFull⟩ bs = (.error whenFull, ⟨written, some 0, whenFull⟩) := by
  obtain ⟨b, bs, rfl⟩ := List.exists_cons_of_ne_nil hbs
  cases whenFull with
  | brokenPipe => simp only [offerAll, offer]
  | writeZero => simp only [offerAll, offer]

/-- The first offer takes what fits.  Behind it either nothing is left or the sink is full. -/
theorem offerAll_eq_write (o : Output) (bs : List UInt8) : o.offerAll bs = o.write bs := by
  obtain ⟨written, room, whenFull⟩ := o
  cases bs with
  | nil => rw [offerAll, write_nil]
  | cons b bs =>
    cases room with
    | none =>
      rw [write_unlimited, offerAll, offer]
      simp only [List.length_cons, List.drop_length]
      rw [offerAll]
    | some room =>
      cases room with
      | zero =>
        rw [offerAll_of_full _ _ (List.cons_ne_nil b bs), write_of_lt (Nat.succ_pos _),
          List.take_zero, List.append_nil]
      | succ room =>
        rw [offerAll, offer]
        by_cases hfits : (b :: bs).length ≤ room + 1
        · rw [write_of_le hfits, Nat.min_eq_right hfits, List.take_length]
          simp only [List.length_cons, List.drop_length]
          rw [offerAll]
        · have hover := Nat.lt_of_not_le hfits
          have hleft : bs.drop room ≠ [] := by
            rw [List.length_cons] at hover
            rw [Ne, List.drop_eq_nil_iff]
            omega
          rw [write_of_lt hover, Nat.min_eq_left (Nat.le_of_lt hover), Nat.sub_self]
          exact offerAll_of_full _ _ hleft

/-- It makes no difference where the pieces begin and end. -/
theorem writePieces_eq_write (o : Output) (ps : List (List UInt8)) :
    o.writePieces ps = o.write ps.flatten := by
  induction ps generalizing o with
  | nil => rw [writePieces, List.flatten_nil, write_nil]
  | cons p ps ih =>
    rw [writePieces, offerAll_eq_write, List.flatten_cons, write_append]
    simp only [ih]

end WasmGuest.Output
