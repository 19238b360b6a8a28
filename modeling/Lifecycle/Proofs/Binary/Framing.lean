import Lifecycle.Proofs.Binary.RoundTrip

/-!
# Bytes that say where they end

Every length stands before what it counts, so that a reader knows from the bytes it has taken where
to stop: with more bytes behind them, it finds the same value and leaves more. `Extensible` says so
of a reader, and is kept by every way to make readers of others. A value that is cut short is
therefore refused, since a reader that took what is left of it would stop there in the whole too.

- `Format.parse_append`: what is found in bytes is found with any others behind them;
- `Format.Lawful.not_parse_of_cut`: no part of what was written is read.
-/

namespace Lifecycle

namespace Binary

open Lifecycle.Except (CarriesOver carriesOver_error carriesOver_ok followedBy)

variable {α β : Type}

/-- With more bytes behind them, the same value is read and more bytes are left. -/
def Extensible (read : Reader α) : Prop :=
  ∀ bytes more,
    CarriesOver True (fun _ => True) (followedBy more) (read bytes) (read (bytes ++ more))

/-! ### Naturals and blocks -/

theorem extensible_readNatural (width : Nat) : Extensible (readNatural width) := by
  induction width with
  | zero => exact fun bytes more => carriesOver_ok fun _ => trivial
  | succ width ih =>
    intro bytes more
    cases bytes with
    | nil => exact carriesOver_error _
    | cons byte bytes =>
      exact (ih bytes more).bind fun higher => carriesOver_ok fun _ => trivial

theorem extensible_readBlock : Extensible readBlock := by
  intro bytes more
  refine (extensible_readNatural 8 bytes more).bind fun (length, behind) => ?_
  dsimp only [followedBy]
  split
  · next hlength =>
    have hlonger : length ≤ (behind ++ more).length := by
      rw [List.length_append]
      omega
    rw [if_pos hlonger, List.take_append_of_le_length hlength,
      List.drop_append_of_le_length hlength]
    exact carriesOver_ok fun _ => trivial
  · exact carriesOver_error _

/-- Values behind one another are read alike, also with more fuel. -/
theorem extensible_readMany {read : Reader α} (hread : Extensible read) (count : Nat)
    (bytes more : List UInt8) {fuel enough : Nat} (hfuel : fuel ≤ enough) :
    CarriesOver True (fun _ => True) (followedBy more) (readMany read fuel count bytes)
      (readMany read enough count (bytes ++ more)) := by
  induction count generalizing bytes fuel enough with
  | zero =>
    rw [readMany, readMany]
    exact carriesOver_ok fun _ => trivial
  | succ count ih =>
    cases fuel with
    | zero => exact carriesOver_error _
    | succ fuel =>
      obtain ⟨enough, rfl⟩ := Nat.exists_eq_add_one.2 (Nat.zero_lt_of_lt hfuel)
      refine (hread bytes more).bind fun first => ?_
      refine (ih first.2 (Nat.le_of_succ_le_succ hfuel)).bind fun others => ?_
      exact carriesOver_ok fun _ => trivial

namespace Format

/-! ### Formats -/

theorem extensible_word32 : Extensible word32.read := by
  intro bytes more
  exact (extensible_readNatural 4 bytes more).bind fun value => carriesOver_ok fun _ => trivial

theorem extensible_word64 : Extensible word64.read := by
  intro bytes more
  exact (extensible_readNatural 8 bytes more).bind fun value => carriesOver_ok fun _ => trivial

theorem extensible_boolean : Extensible boolean.read := by
  intro bytes more
  cases bytes with
  | nil => exact carriesOver_error _
  | cons byte bytes =>
    simp only [boolean, List.cons_append]
    split
    · exact carriesOver_ok fun _ => trivial
    · split
      · exact carriesOver_ok fun _ => trivial
      · exact carriesOver_error _

theorem extensible_block (meaning : List UInt8 → Except String α) (content : α → List UInt8) :
    Extensible (block meaning content).read := by
  intro bytes more
  refine (extensible_readBlock bytes more).bind fun found => ?_
  dsimp only [followedBy]
  split
  · exact carriesOver_ok fun _ => trivial
  · exact carriesOver_error _

theorem extensible_text (meaning : String → Except String α) (content : α → String) :
    Extensible (text meaning content).read := by
  intro bytes more
  refine (extensible_readBlock bytes more).bind fun found => ?_
  dsimp only [followedBy]
  split
  · exact carriesOver_error _
  · split
    · exact carriesOver_ok fun _ => trivial
    · exact carriesOver_error _

theorem extensible_string : Extensible string.read :=
  extensible_text .ok id

variable {format : Format α}

theorem extensible_pair {first : Format α} {second : Format β} (hfirst : Extensible first.read)
    (hsecond : Extensible second.read) : Extensible (first.pair second).read := by
  intro bytes more
  refine (hfirst bytes more).bind fun left => ?_
  exact (hsecond left.2 more).bind fun right => carriesOver_ok fun _ => trivial

theorem extensible_list (h : Extensible format.read) : Extensible (list format).read := by
  intro bytes more
  refine (extensible_readNatural 8 bytes more).bind fun count => ?_
  -- more bytes are more fuel
  refine extensible_readMany h count.1 count.2 more ?_
  rw [List.length_append]
  exact Nat.le_add_right _ _

theorem extensible_transfer (h : Extensible format.read) (wrap : α → β) (unwrap : β → α) :
    Extensible (format.transfer wrap unwrap).read := by
  intro bytes more
  exact (h bytes more).bind fun value => carriesOver_ok fun _ => trivial

/-- What is found in bytes is found in them with any others behind them. -/
theorem parse_append (h : Extensible format.read) {bytes : List UInt8} {value : α}
    (hparse : format.parse bytes = .ok value) (more : List UInt8) :
    format.parse (bytes ++ more) = .ok value := by
  obtain ⟨found, hread, rfl⟩ := Except.exists_of_map_eq_ok hparse
  rw [parse, (h bytes more found hread trivial).2]
  rfl

/-- Of a value that is cut short nothing is read. -/
theorem Lawful.not_parse_of_cut {Fits : α → Prop} (hlawful : format.Lawful Fits)
    (h : Extensible format.read) {value : α} (hfits : Fits value) {kept lost : List UInt8}
    (hlost : lost ≠ []) (hcut : kept ++ lost = format.write value) (found : α) :
    format.parse kept ≠ .ok found := by
  intro hparse
  obtain ⟨⟨first, rest⟩, hread, -⟩ := Except.exists_of_map_eq_ok hparse
  -- in the whole, the reader would stop at the same place, but it takes everything
  have hwhole := (h kept lost _ hread trivial).2
  have hwritten := hlawful.read_write value [] hfits
  rw [List.append_nil, ← hcut, hwhole] at hwritten
  have hleft : rest ++ lost = [] := congrArg Prod.snd (Except.ok.inj hwritten)
  exact hlost (List.append_eq_nil_iff.1 hleft).2

end Format

end Binary

end Lifecycle
