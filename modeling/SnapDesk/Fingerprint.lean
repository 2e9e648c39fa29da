import SnapDesk.ScriptValues

/-! # What a fingerprint hashes

`Sha256` concatenates the strings of its arguments and hashes the result.  The strings are
not closed, so what one argument loses the next may gain: two networks can spread the same
bytes differently over their elements and hash the same data (`not_concatValues_changed`).

A change is seen if it cannot be made good by what follows: if the first argument that has
changed does not merely go on where the other string ends, or if it is the only one
(`concatValues_changed`). -/
namespace SnapDesk
open BigNumber

namespace Node
variable {digest : Str → Vector UInt8 32} {f : Frame}

/-- The arguments that read the frame. -/
def ReadsFrame : Node → Bool
  | .getter _ => true
  | .function .cutBit _ => true
  | .function .cutByte _ => true
  | _ => false

/-- `Sha256` concatenates the strings of its arguments. -/
theorem concatValues_eq {args : List Node} {values : List Str}
    (h : args.mapM (getValue digest f) = .ok values) :
    concatValues digest f args = .ok values.flatten := by
  induction args generalizing values with
  | nil =>
    rw [List.mapM_nil] at h
    cases h
    rfl
  | cons arg args ih =>
    rw [List.mapM_cons] at h
    obtain ⟨value, hvalue, h⟩ := bind_eq_ok h
    obtain ⟨rest, hrest, h⟩ := bind_eq_ok h
    cases h
    rw [concatValues, hvalue, ok_bind, ih hrest, ok_bind]
    rfl

end Node

/-- Strings that do not continue each other stay apart, whatever follows them. -/
theorem append_ne_append {s s' : Str} (h : ¬ s <+: s') (h' : ¬ s' <+: s) (rest rest' : Str) :
    s ++ rest ≠ s' ++ rest' := by
  intro he
  have hs : s <+: s ++ rest := List.prefix_append s rest
  have hs' : s' <+: s ++ rest := he ▸ List.prefix_append s' rest'
  rcases List.prefix_or_prefix_of_prefix hs hs' with hprefix | hprefix
  · exact h hprefix
  · exact h' hprefix

/-- A list up to a place, there, and behind it. -/
theorem flatten_split {values : List Str} {i : Nat} {s : Str} (h : values[i]? = some s) :
    values.flatten = (values.take i).flatten ++ (s ++ (values.drop (i + 1)).flatten) := by
  obtain ⟨hi, rfl⟩ := List.getElem?_eq_some_iff.mp h
  conv_lhs => rw [← List.take_append_drop i values, List.drop_eq_getElem_cons hi]
  rw [List.flatten_append, List.flatten_cons]

/-- **A change of the arguments is hashed** if neither of the first two strings that differ
is a prefix of the other, or if no argument but one has changed. -/
theorem concatValues_changed (digest : Str → Vector UInt8 32) {f g : Frame} {args : List Node}
    {values values' : List Str} (hf : args.mapM (Node.getValue digest f) = .ok values)
    (hg : args.mapM (Node.getValue digest g) = .ok values') {i : Nat} {s s' : Str}
    (hs : values[i]? = some s)
    (hs' : values'[i]? = some s') (hne : s ≠ s') (hbefore : values.take i = values'.take i)
    (hchange : (¬ s <+: s' ∧ ¬ s' <+: s) ∨ values.drop (i + 1) = values'.drop (i + 1)) :
    ∃ data data', Node.concatValues digest f args = .ok data ∧
      Node.concatValues digest g args = .ok data' ∧
      data ≠ data' := by
  refine ⟨_, _, Node.concatValues_eq hf, Node.concatValues_eq hg, ?_⟩
  rw [flatten_split hs, flatten_split hs', hbefore]
  intro he
  -- what comes before the first change is the same and drops out
  have hrest := List.append_cancel_left he
  rcases hchange with ⟨h, h'⟩ | hafter
  · exact append_ne_append h h' _ _ hrest
  · rw [hafter] at hrest
    exact hne (List.append_cancel_right hrest)

/-! ### Bytes that move between elements -/

namespace Frame

/-- The frame of a beacon, decoded. -/
def ofBeacon (b : Beacon) : Frame := (ofBuffer b.wire b.wire.length).decoded b.toHeader b.toBody

theorem decode_run_ofBeacon (b : Beacon) (hfits : b.wire.length ≤ beaconFrameMaxLength) :
    decode.run (ofBuffer b.wire b.wire.length) = .ok () (ofBeacon b) :=
  decode_run_wire b hfits (List.prefix_refl _) (holds_ofBuffer ..)

/-- The getters of the elements 0 and 1. -/
def twoGetters : List Node := [.getter (lit "00"), .getter (lit "01")]

theorem twoGetters_mapM (digest : Str → Vector UInt8 32) (b : Beacon) (first second : List UInt8)
    (hfirst : Element.lookup 0 b.elements = ofVector first)
    (hsecond : Element.lookup 1 b.elements = ofVector second) :
    twoGetters.mapM (Node.getValue digest (ofBeacon b)) =
      .ok [Node.hexText first, Node.hexText second] := by
  have hgetter {field : Str} {id : UInt8} {bytes : List UInt8} (hfield : HexPair field id)
      (hbytes : Element.lookup id b.elements = ofVector bytes) :
      Node.getValue digest (ofBeacon b) (.getter field) = .ok (Node.hexText bytes) := by
    have hvalue : (ofBeacon b).getValue field = .ok (ofVector bytes) :=
      (getValue_element _ b hfield).trans (congrArg Except.ok hbytes)
    exact Node.getValue_getter rfl hvalue rfl
  have hzero : Node.getValue digest (ofBeacon b) (.getter (lit "00")) = .ok (Node.hexText first) :=
    hgetter ⟨48, 48, rfl, by decide, by decide, by decide⟩ hfirst
  have hone : Node.getValue digest (ofBeacon b) (.getter (lit "01")) = .ok (Node.hexText second) :=
    hgetter ⟨48, 49, rfl, by decide, by decide, by decide⟩ hsecond
  rw [twoGetters, List.mapM_cons, hzero, ok_bind, List.mapM_cons, hone, ok_bind]
  rfl

/-- Two ways to spread three bytes over two elements. -/
def longFirst : Beacon :=
  { homeBeacon with elements :=
    [⟨⟨0, lit "ab", by decide⟩, by decide⟩, ⟨⟨1, lit "c", by decide⟩, by decide⟩] }

def longSecond : Beacon :=
  { homeBeacon with elements :=
    [⟨⟨0, lit "a", by decide⟩, by decide⟩, ⟨⟨1, lit "bc", by decide⟩, by decide⟩] }

/-- Another name of the same length. -/
def renamed : Beacon :=
  { homeBeacon with elements :=
    [⟨⟨0, lit "ad", by decide⟩, by decide⟩, ⟨⟨1, lit "c", by decide⟩, by decide⟩] }

end Frame

/-- The data of two names of the same length. -/
theorem concatValues_changed_renamed :
    ∃ data data',
      Node.concatValues (fun _ => Vector.replicate 32 0) (Frame.ofBeacon Frame.longFirst) Frame.twoGetters =
        .ok data ∧
      Node.concatValues (fun _ => Vector.replicate 32 0) (Frame.ofBeacon Frame.renamed) Frame.twoGetters =
        .ok data' ∧ data ≠ data' :=
  concatValues_changed (i := 0) (fun _ => Vector.replicate 32 0)
    (Frame.twoGetters_mapM _ Frame.longFirst (lit "ab") (lit "c") rfl rfl)
    (Frame.twoGetters_mapM _ Frame.renamed (lit "ad") (lit "c") rfl rfl) rfl rfl (by decide) rfl
      (.inl (by decide))

/-- Another network, and the same data are hashed. -/
theorem not_concatValues_changed :
    ¬ ∀ (digest : Str → Vector UInt8 32) (f₀ g₀ f g : Frame) (buffer buffer' : List UInt8) (n n' : Nat)
        (args : List Node) (values values' : List Str),
      f₀.Holds buffer n → Frame.decode.run f₀ = .ok () f → g₀.Holds buffer' n' →
        Frame.decode.run g₀ = .ok () g →
      (∀ arg ∈ args, arg.ReadsFrame = true) → args.mapM (Node.getValue digest f) = .ok values →
      args.mapM (Node.getValue digest g) = .ok values' → values ≠ values' →
      ∃ data data', Node.concatValues digest f args = .ok data ∧
        Node.concatValues digest g args = .ok data' ∧
        data ≠ data' := by
  intro h
  have hf := Frame.twoGetters_mapM (fun _ => Vector.replicate 32 0) Frame.longFirst (lit "ab")
    (lit "c") rfl rfl
  have hg := Frame.twoGetters_mapM (fun _ => Vector.replicate 32 0) Frame.longSecond (lit "a")
    (lit "bc") rfl rfl
  obtain ⟨data, data', hdata, hdata', hne⟩ := h _ _ _ _ _ _ _ _ _ _ _ _ (Frame.holds_ofBuffer ..)
    (Frame.decode_run_ofBeacon Frame.longFirst (by decide)) (Frame.holds_ofBuffer ..)
    (Frame.decode_run_ofBeacon Frame.longSecond (by decide)) (by decide) hf hg (by decide)
  rw [Node.concatValues_eq hf] at hdata
  rw [Node.concatValues_eq hg] at hdata'
  cases hdata
  cases hdata'
  exact hne (by decide)

end SnapDesk
