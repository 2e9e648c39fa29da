import SnapDesk.DeviceRuns

/-! # The beacon device, byte by byte

`my_module.h` has no lock: a beacon is published, loaded and read one byte at a time.  One
step here is one access to the data that the calls share: a byte of a buffer, a size or the
counter.  Any number of processes may be in `my_open`, `my_release` and `my_read` at once, each
file being read by one call at a time; `update_beacon` may overlap with everything but itself,
since a tasklet does not run twice at once.  An access outside of an array is no step.

If no beacon is published while a `my_open` loads one, one process at a time is in `my_open` or
`my_release` and the beacons fit into the buffer (`Apart`), the calls might as well be made at
once, each when it ends (`simulates_of_run`), and what a process reads are beginnings of a
beacon as it was published (`reads_whole`).  Otherwise it may read a frame that nobody has sent
(`torn_read`), and a file that is open may not be counted (`lost_open`). -/
namespace SnapDesk
open BigNumber Transition

/-- Where `update_beacon` is: the packet, and how much of it is written. -/
structure Publishing where
  packet : List UInt8
  written : Nat

/-- Where `my_open` or `my_release` is.  `loaded` says whether `my_open` has loaded a frame. -/
inductive Entering where
  | loading (h : Handle)
  | copying (h : Handle) (minSize i : Nat)
  | counting (h : Handle) (loaded : Bool)
  | storing (h : Handle) (loaded : Bool) (openCount : Nat)
  | releasing (h : Handle) (openCount : Nat)

/-- Where `my_read` is: what was asked for, what is to be copied and what has been. -/
structure Reading where
  bufferSize : Nat
  len : Nat
  copied : List UInt8

/-- The device with the calls that are under way. -/
structure ByteState where
  module : Module
  publishing : Option Publishing
  entering : List Entering
  reading : Handle → Option Reading
  live : Finset Handle
  offset : Handle → Nat

/-- The file that it is called for. -/
def Entering.handle : Entering → Handle
  | loading h | copying h _ _ | counting h _ | storing h _ _ | releasing h _ => h

/-- It is a `my_open` that loads a frame. -/
def Entering.loads : Entering → Bool
  | loading _ | copying _ _ _ => true
  | counting _ loaded => loaded
  | storing _ loaded _ => loaded
  | releasing _ _ => false

namespace ByteState

/-- The container with another frame. -/
def withLoadedFrame (s : ByteState) (loadedFrame : List UInt8) : Module :=
  { s.module with container := { s.module.container with loadedFrame := loadedFrame } }

/-- The container with another counter. -/
def withOpenCount (s : ByteState) (openCount : Nat) : Module :=
  { s.module with container := { s.module.container with openCount := openCount } }

/-- One access, and the call that ends with it. -/
inductive Step : ByteState → Option DeviceCall → ByteState → Prop
  | publishStarts {s : ByteState} {b : List UInt8} (h : s.publishing = none) :
      Step s none { s with
        module := { s.module with frameSize := min b.length beaconMaxSize }
        publishing := some ⟨b, 0⟩ }
  | bytePublished {s : ByteState} {p : Publishing} {b : UInt8} {buffer : List UInt8}
      (h : s.publishing = some p) (hlt : p.written < p.packet.length)
      (hb : readByte p.packet p.written = .ok b)
      (hbuffer : writeByte s.module.buffer p.written b = .ok buffer) :
      Step s none { s with
        module := { s.module with buffer := buffer }
        publishing := some ⟨p.packet, p.written + 1⟩ }
  | publishEnds {s : ByteState} {p : Publishing} (h : s.publishing = some p)
      (hend : p.written = p.packet.length) :
      Step s (some (.updateBeacon p.packet)) { s with publishing := none }
  | openLoads {s : ByteState} {h : Handle} (hh : h ∉ s.live)
      (hnew : ∀ e ∈ s.entering, e.handle ≠ h) (hcount : s.module.container.openCount < 1) :
      Step s none { s with entering := s.entering ++ [.loading h] }
  | openCounts {s : ByteState} {h : Handle} (hh : h ∉ s.live)
      (hnew : ∀ e ∈ s.entering, e.handle ≠ h) (hcount : 1 ≤ s.module.container.openCount) :
      Step s none { s with entering := s.entering ++ [.counting h false] }
  | sized {s : ByteState} {h : Handle} (before after : List Entering)
      (hloading : s.entering = before ++ .loading h :: after) :
      Step s none { s with
        entering := before ++ .copying h (min beaconMaxSize s.module.frameSize) 0 :: after }
  | byteLoaded {s : ByteState} {h : Handle} {minSize i : Nat} {b : UInt8}
      {loadedFrame : List UInt8} (before after : List Entering)
      (hcopying : s.entering = before ++ .copying h minSize i :: after)
      (hlt : i < minSize) (hb : readByte s.module.buffer i = .ok b)
      (hframe : writeByte s.module.container.loadedFrame i b = .ok loadedFrame) :
      Step s none { s with
        module := s.withLoadedFrame loadedFrame
        entering := before ++ .copying h minSize (i + 1) :: after }
  | loaded {s : ByteState} {h : Handle} {minSize : Nat} (before after : List Entering)
      (hcopying : s.entering = before ++ .copying h minSize minSize :: after) :
      Step s none { s with
        module := { s.module with
          container := { s.module.container with frameSize := s.module.frameSize } }
        entering := before ++ .counting h true :: after }
  | counted {s : ByteState} {h : Handle} {loaded : Bool} (before after : List Entering)
      (hcounting : s.entering = before ++ .counting h loaded :: after) :
      Step s none { s with
        entering := before ++ .storing h loaded (add64 s.module.container.openCount 1) :: after }
  | opened {s : ByteState} {h : Handle} {loaded : Bool} {openCount : Nat}
      (before after : List Entering)
      (hstoring : s.entering = before ++ .storing h loaded openCount :: after) :
      Step s (some (.myOpen h)) { s with
        module := s.withOpenCount openCount
        entering := before ++ after
        live := insert h s.live
        offset := Function.update s.offset h 0 }
  | releaseCounts {s : ByteState} {h : Handle} (hh : h ∈ s.live)
      (hnew : ∀ e ∈ s.entering, e.handle ≠ h) (hreading : s.reading h = none) :
      Step s none { s with
        entering := s.entering ++ [.releasing h (sub64 s.module.container.openCount 1)] }
  | released {s : ByteState} {h : Handle} {openCount : Nat} (before after : List Entering)
      (hreleasing : s.entering = before ++ .releasing h openCount :: after) :
      Step s (some (.myRelease h)) { s with
        module := s.withOpenCount openCount
        entering := before ++ after
        live := s.live.erase h }
  | readStarts {s : ByteState} {h : Handle} {bufferSize : Nat} (hh : h ∈ s.live)
      (hreleasing : ∀ openCount, .releasing h openCount ∉ s.entering)
      (hreading : s.reading h = none) :
      Step s none { s with
        reading := Function.update s.reading h (some
          ⟨bufferSize, min (sub64 s.module.container.frameSize (s.offset h)) bufferSize, []⟩) }
  | byteRead {s : ByteState} {h : Handle} {r : Reading} {b : UInt8}
      (hreading : s.reading h = some r) (hlen : r.len < 2 ^ 63) (hlt : r.copied.length < r.len)
      (hb : readByte s.module.container.loadedFrame r.copied.length = .ok b) :
      Step s none { s with
        reading := Function.update s.reading h (some { r with copied := r.copied ++ [b] }) }
  | readEnds {s : ByteState} {h : Handle} {r : Reading} (hreading : s.reading h = some r)
      (hlen : r.len < 2 ^ 63) (hend : r.copied.length = r.len) :
      Step s (some (.myRead h r.bufferSize ⟨r.len, r.copied, add64 (s.offset h) r.len⟩))
        { s with
          reading := Function.update s.reading h none
          offset := Function.update s.offset h (add64 (s.offset h) r.len) }
  | readFails {s : ByteState} {h : Handle} {r : Reading} (hreading : s.reading h = some r)
      (hlen : 2 ^ 63 ≤ r.len) :
      Step s (some (.myRead h r.bufferSize ⟨-1, [], s.offset h⟩))
        { s with reading := Function.update s.reading h none }

/-- No beacon is published while a `my_open` loads one, one process at a time is in `my_open`
or `my_release`, and what is published fits into the buffer. -/
structure Apart (s : ByteState) : Prop where
  loading : ∀ e ∈ s.entering, e.loads = true → s.publishing = none
  alone : s.entering.length ≤ 1
  packet : ∀ p, s.publishing = some p → p.packet.length ≤ beaconMaxSize

/-- A step to a state where that is so. -/
def ApartStep (s : ByteState) (c : Option DeviceCall) (t : ByteState) : Prop :=
  Step s c t ∧ t.Apart

/-- After `my_init`, with no call under way. -/
structure Initial (s : ByteState) (a : DeviceState) : Prop where
  module_eq : s.module = a.module
  publishing : s.publishing = none
  entering : s.entering = []
  reading : ∀ h, s.reading h = none
  live : s.live = a.live
  offset : s.offset = a.offset

/-! ### The calls at once -/

/-- The container after the frame is loaded. -/
def loadedContainer (a : DeviceState) : Container where
  loadedFrame := a.module.buffer.take a.module.frameSize ++
    a.module.container.loadedFrame.drop a.module.frameSize
  frameSize := a.module.frameSize
  openCount := a.module.container.openCount

/-- What the driver is at has not been published. -/
def PublishingMatches (a : DeviceState) (m : Module) : Option Publishing → Prop
  | none => m.buffer = a.module.buffer ∧ m.frameSize = a.module.frameSize
  | some p => p.packet.length ≤ beaconMaxSize ∧ p.written ≤ p.packet.length ∧
      m.frameSize = p.packet.length ∧
      m.buffer = p.packet.take p.written ++ a.module.buffer.drop p.written

/-- What `my_open` or `my_release` is at has not been done. -/
def EntryMatches (a : DeviceState) (c : Container) : Entering → Prop
  | .loading h => h ∉ a.live ∧ a.module.container.openCount = 0 ∧ c = a.module.container
  | .copying h minSize i => h ∉ a.live ∧ a.module.container.openCount = 0 ∧
      minSize = a.module.frameSize ∧ i ≤ minSize ∧
      c = ⟨a.module.buffer.take i ++ a.module.container.loadedFrame.drop i,
        a.module.container.frameSize, a.module.container.openCount⟩
  | .counting h loaded => h ∉ a.live ∧ (loaded = true ↔ a.module.container.openCount = 0) ∧
      c = if loaded then loadedContainer a else a.module.container
  | .storing h loaded openCount => h ∉ a.live ∧
      (loaded = true ↔ a.module.container.openCount = 0) ∧
      openCount = add64 a.module.container.openCount 1 ∧
      c = if loaded then loadedContainer a else a.module.container
  | .releasing h openCount => h ∈ a.live ∧
      openCount = sub64 a.module.container.openCount 1 ∧ c = a.module.container

/-- One call at most is under way. -/
def EnteringMatches (a : DeviceState) (c : Container) : List Entering → Prop
  | [] => c = a.module.container
  | [e] => EntryMatches a c e
  | _ => False

/-- What a `my_read` is at will be read. -/
def ReadingMatches (a : DeviceState) (h : Handle) (r : Reading) : Prop :=
  h ∈ a.live ∧ r.len = min (sub64 a.module.container.frameSize (a.offset h)) r.bufferSize ∧
    r.copied.length ≤ r.len ∧ r.copied = a.module.container.loadedFrame.take r.copied.length

/-- The device stands for one whose calls are made at once. -/
structure Matches (s : ByteState) (a : DeviceState) : Prop where
  live : s.live = a.live
  offset : s.offset = a.offset
  publishing : PublishingMatches a s.module s.publishing
  entering : EnteringMatches a s.module.container s.entering
  reading : ∀ h r, s.reading h = some r → ReadingMatches a h r ∧
    ∀ openCount, .releasing h openCount ∉ s.entering
  apart : s.Apart

/-! ### One access -/

theorem getElem?_of_readByte {source : List UInt8} {i : Nat} {b : UInt8}
    (h : readByte source i = .ok b) : source[i]? = some b := by
  rw [readByte] at h
  split at h
  · rename_i hb
    cases h
    exact hb
  · cases h

/-- One turn of a copy loop. -/
theorem copy_turn {source target result : List UInt8} {i : Nat} {b : UInt8}
    (htarget : i < target.length) (hb : readByte source i = .ok b)
    (hresult : writeByte (source.take i ++ target.drop i) i b = .ok result) :
    result = source.take (i + 1) ++ target.drop (i + 1) := by
  obtain ⟨hsource, rfl⟩ := List.getElem?_eq_some_iff.mp (getElem?_of_readByte hb)
  have hlength : (source.take i).length = i := by
    rw [List.length_take, Nat.min_eq_left hsource.le]
  rw [writeByte, if_pos (by rw [List.length_append, List.length_drop]; omega)] at hresult
  cases hresult
  rw [List.set_append_right _ _ hlength.le, hlength, Nat.sub_self,
    List.drop_eq_getElem_cons htarget, List.set_cons_zero,
    List.take_succ_eq_append_getElem hsource, List.append_assoc]
  rfl

section
variable {s t : ByteState} {a a' : DeviceState} {calls : List DeviceCall} {m : Module}
variable {c : Container}

/-- Where one call at a time is under way, it is all there is. -/
theorem Apart.only (h : s.Apart) {e : Entering} {before after : List Entering}
    (he : s.entering = before ++ e :: after) : before = [] ∧ after = [] := by
  have hlength := h.alone
  rw [he, List.length_append, List.length_cons] at hlength
  exact ⟨List.length_eq_zero_iff.mp (by omega), List.length_eq_zero_iff.mp (by omega)⟩

theorem Apart.eq_singleton (h : s.Apart) {e : Entering} (he : e ∈ s.entering) :
    s.entering = [e] := by
  obtain ⟨before, after, hsplit⟩ := List.append_of_mem he
  obtain ⟨rfl, rfl⟩ := h.only hsplit
  exact hsplit

theorem Apart.free {e : Entering}
    (h : Apart { s with module := m, entering := s.entering ++ [e] }) : s.entering = [] := by
  have hlength := h.alone
  rw [List.length_append, List.length_singleton] at hlength
  exact List.length_eq_zero_iff.mp (by omega)

/-- While a handle is live no frame is loaded. -/
theorem EntryMatches.container_eq {e : Entering} (h : EntryMatches a c e)
    (hinv : a.Invariant calls) (hlive : a.live.Nonempty) : c = a.module.container := by
  have hcount : a.module.container.openCount ≠ 0 := by
    rw [hinv.openCount]
    exact (Finset.card_pos.mpr hlive).ne'
  cases e with
  | loading => exact absurd h.2.1 hcount
  | copying => exact absurd h.2.1 hcount
  | counting _ loaded =>
    obtain ⟨-, hloaded, rfl⟩ := h
    rw [if_neg fun he => hcount (hloaded.mp he)]
  | storing _ loaded =>
    obtain ⟨-, hloaded, -, rfl⟩ := h
    rw [if_neg fun he => hcount (hloaded.mp he)]
  | releasing => exact h.2.2

theorem EnteringMatches.container_eq {es : List Entering} (h : EnteringMatches a c es)
    (hinv : a.Invariant calls) (hlive : a.live.Nonempty) : c = a.module.container := by
  cases es with
  | nil => exact h
  | cons e es =>
    cases es with
    | nil => exact EntryMatches.container_eq h hinv hlive
    | cons => exact h.elim

/-- What does not load does not see what is published. -/
theorem EntryMatches.of_not_loads {e : Entering} (h : EntryMatches a c e)
    (hnot : e.loads = false) (hlive : a'.live = a.live)
    (hcontainer : a'.module.container = a.module.container) : EntryMatches a' c e := by
  cases e with
  | loading => cases hnot
  | copying => cases hnot
  | counting _ loaded =>
    cases loaded with
    | true => cases hnot
    | false =>
      simp only [EntryMatches, hlive, hcontainer] at h ⊢
      exact h
  | storing _ loaded =>
    cases loaded with
    | true => cases hnot
    | false =>
      simp only [EntryMatches, hlive, hcontainer] at h ⊢
      exact h
  | releasing =>
    simp only [EntryMatches, hlive, hcontainer] at h ⊢
    exact h

theorem EnteringMatches.of_not_loads {es : List Entering} (h : EnteringMatches a c es)
    (hnot : ∀ e ∈ es, e.loads = false) (hlive : a'.live = a.live)
    (hcontainer : a'.module.container = a.module.container) : EnteringMatches a' c es := by
  cases es with
  | nil => exact h.trans hcontainer.symm
  | cons e es =>
    cases es with
    | nil => exact EntryMatches.of_not_loads h (hnot e (List.mem_singleton_self e)) hlive hcontainer
    | cons => exact h.elim

/-- A read sees the container and the offset of its handle. -/
theorem ReadingMatches.of_eq {h : Handle} {r : Reading} (hr : ReadingMatches a h r)
    (hlive : h ∈ a'.live) (hoffset : a'.offset h = a.offset h)
    (hsize : a'.module.container.frameSize = a.module.container.frameSize)
    (hframe : a'.module.container.loadedFrame = a.module.container.loadedFrame) :
    ReadingMatches a' h r := by
  obtain ⟨-, hlen, hle, hcopied⟩ := hr
  exact ⟨hlive, by rw [hsize, hoffset]; exact hlen, hle, by rw [hframe]; exact hcopied⟩

/-- A call less is under way. -/
theorem Apart.without (h : s.Apart) (m : Module) {live : Finset Handle} {offset : Handle → Nat} :
    Apart { s with module := m, entering := [], live := live, offset := offset } where
  loading := fun _ he => absurd he List.not_mem_nil
  alone := Nat.zero_le 1
  packet := h.packet

/-- As many calls are under way. -/
theorem Apart.with_entering (h : s.Apart) (m : Module) {e e' : Entering}
    (he : s.entering = [e]) (hloads : e'.loads = true → e.loads = true) :
    Apart { s with module := m, entering := [e'] } where
  loading := List.forall_mem_singleton.mpr fun h' =>
    h.loading e (he ▸ List.mem_singleton_self e) (hloads h')
  alone := Nat.le_refl 1
  packet := h.packet

namespace Matches

/-- `update_beacon` is made when it ends. -/
theorem publishEnds (h : Matches s a) (hinv : a.Invariant calls) {p : Publishing}
    (hp : s.publishing = some p) (hend : p.written = p.packet.length) :
    ∃ a', DeviceState.Step a (.updateBeacon p.packet) a' ∧
      Matches { s with publishing := none } a' := by
  have hpublishing := h.publishing
  rw [hp] at hpublishing
  obtain ⟨hle, -, hsize, hbuffer⟩ := hpublishing
  have hloads : ∀ e ∈ s.entering, e.loads = false := by
    intro e he
    by_contra hloads
    have hnone := h.apart.loading e he (Bool.of_not_eq_false hloads)
    rw [hp] at hnone
    cases hnone
  refine ⟨_, .updateBeacon hle (Module.updateBeacon_ok hinv.sound.buffer_length hle), ?_⟩
  exact {
    live := h.live
    offset := h.offset
    publishing := by
      refine ⟨?_, hsize⟩
      change s.module.buffer = _
      rw [hbuffer, hend, List.take_length]
    entering := h.entering.of_not_loads hloads rfl rfl
    reading := fun x r hr => ⟨(h.reading x r hr).1.of_eq (h.reading x r hr).1.1 rfl rfl rfl,
      (h.reading x r hr).2⟩
    apart := ⟨fun _ _ _ => rfl, h.apart.alone, fun _ hp => by cases hp⟩ }

/-- `my_open` is made when it ends. -/
theorem opened (h : Matches s a) (hinv : a.Invariant calls) {x : Handle} {loaded : Bool}
    {openCount : Nat} (hstoring : s.entering = [.storing x loaded openCount]) :
    ∃ a', DeviceState.Step a (.myOpen x) a' ∧ Matches { s with
      module := s.withOpenCount openCount
      entering := []
      live := insert x s.live
      offset := Function.update s.offset x 0 } a' := by
  have hentering := h.entering
  rw [hstoring] at hentering
  obtain ⟨hx, hloaded, hcount, hcontainer⟩ := hentering
  have hreading (y : Handle) (r : Reading) (hr : s.reading y = some r) : y ∈ a.live ∧ y ≠ x :=
    ⟨(h.reading y r hr).1.1, fun he => hx (he ▸ (h.reading y r hr).1.1)⟩
  cases loaded with
  | true =>
    have hzero := hloaded.mp rfl
    have hempty : a.live = ∅ := by
      rw [hinv.openCount] at hzero
      exact Finset.card_eq_zero.mp hzero
    refine ⟨_, .myOpen hx (Module.myOpen_first hinv.sound hzero), ?_⟩
    exact {
      live := congrArg (insert x) h.live
      offset := congrArg (Function.update · x 0) h.offset
      publishing := h.publishing
      entering := by
        rw [hzero] at hcount
        change Container.mk s.module.container.loadedFrame s.module.container.frameSize
          openCount = _
        rw [hcontainer, if_pos rfl, hcount]
        rfl
      reading := fun y r hr => by
        have hy := (hreading y r hr).1
        rw [hempty] at hy
        exact absurd hy (Finset.notMem_empty y)
      apart := h.apart.without _ }
  | false =>
    have hpos : 1 ≤ a.module.container.openCount :=
      Nat.one_le_iff_ne_zero.mpr fun hzero => absurd (hloaded.mpr hzero) (by decide)
    refine ⟨_, .myOpen hx (Module.myOpen_later hpos), ?_⟩
    exact {
      live := congrArg (insert x) h.live
      offset := congrArg (Function.update · x 0) h.offset
      publishing := h.publishing
      entering := by
        change Container.mk s.module.container.loadedFrame s.module.container.frameSize
          openCount = _
        rw [hcontainer, if_neg (by decide), hcount]
      reading := fun y r hr => by
        obtain ⟨hy, hne⟩ := hreading y r hr
        refine ⟨(h.reading y r hr).1.of_eq (Finset.mem_insert_of_mem hy)
          (Function.update_of_ne hne _ _) rfl rfl, fun _ => List.not_mem_nil⟩
      apart := h.apart.without _ }

/-- `my_release` is made when it ends. -/
theorem released (h : Matches s a) {x : Handle} {openCount : Nat}
    (hreleasing : s.entering = [.releasing x openCount]) :
    ∃ a', DeviceState.Step a (.myRelease x) a' ∧ Matches { s with
      module := s.withOpenCount openCount
      entering := []
      live := s.live.erase x } a' := by
  have hentering := h.entering
  rw [hreleasing] at hentering
  obtain ⟨hx, hcount, hcontainer⟩ := hentering
  refine ⟨_, .myRelease hx, ?_⟩
  exact {
    live := congrArg (Finset.erase · x) h.live
    offset := h.offset
    publishing := h.publishing
    entering := by
      change Container.mk s.module.container.loadedFrame s.module.container.frameSize openCount = _
      rw [hcontainer, hcount, Module.myRelease]
    reading := fun y r hr => by
      obtain ⟨hmatches, hnot⟩ := h.reading y r hr
      have hne : y ≠ x := by
        rintro rfl
        refine hnot openCount ?_
        rw [hreleasing]
        exact List.mem_singleton_self _
      exact ⟨hmatches.of_eq (Finset.mem_erase_of_ne_of_mem hne hmatches.1) rfl
        Module.myRelease_frameSize Module.myRelease_loadedFrame, fun _ => List.not_mem_nil⟩
    apart := h.apart.without _ }

/-- `my_read` is made when it ends. -/
theorem readEnds (h : Matches s a) {x : Handle} {r : Reading} (hreading : s.reading x = some r)
    (hlen : r.len < 2 ^ 63) (hend : r.copied.length = r.len) :
    ∃ a', DeviceState.Step a
        (.myRead x r.bufferSize ⟨r.len, r.copied, add64 (s.offset x) r.len⟩) a' ∧
      Matches { s with
        reading := Function.update s.reading x none
        offset := Function.update s.offset x (add64 (s.offset x) r.len) } a' := by
  obtain ⟨⟨hx, hr, -, hcopied⟩, -⟩ := h.reading x r hreading
  rw [hend] at hcopied
  have hinside : r.len ≤ a.module.container.loadedFrame.length := by
    have hlength := congrArg List.length hcopied
    rw [List.length_take] at hlength
    omega
  have hread : a.module.myRead r.bufferSize (a.offset x) =
      .ok ⟨r.len, r.copied, add64 (s.offset x) r.len⟩ := by
    rw [Module.myRead, ← hr, if_neg (by omega), if_neg (by omega), ← hcopied, h.offset]
  refine ⟨_, .myRead hx hread, ?_⟩
  exact {
    live := h.live
    offset := by simp only [h.offset]
    publishing := h.publishing
    entering := h.entering
    reading := fun y r' hr' => by
      by_cases hne : y = x
      · rw [hne] at hr'
        simp only [Function.update_self] at hr'
        cases hr'
      · simp only [Function.update_of_ne hne] at hr'
        obtain ⟨hmatches, hnot⟩ := h.reading y r' hr'
        exact ⟨hmatches.of_eq hmatches.1 (Function.update_of_ne hne _ _) rfl rfl, hnot⟩
    apart := ⟨h.apart.loading, h.apart.alone, h.apart.packet⟩ }

/-- No `my_read` fails: what is left of a frame is not so long. -/
theorem len_lt (h : Matches s a) (hinv : a.Invariant calls) {x : Handle} {r : Reading}
    (hreading : s.reading x = some r) : r.len < 2 ^ 63 := by
  obtain ⟨⟨hx, hr, -⟩, -⟩ := h.reading x r hreading
  obtain ⟨b, -, hlength, hloaded⟩ := hinv.loaded ⟨x, hx⟩
  have hoffset := hinv.offset_le x hx
  rw [sub64_eq hoffset, hloaded.1] at hr
  rw [beaconMaxSize] at hlength
  omega

/-- Where nothing is published, the global buffer holds what was published last. -/
theorem global_eq (h : Matches s a) {e : Entering} (he : s.entering = [e])
    (hloads : e.loads = true) :
    s.module.buffer = a.module.buffer ∧ s.module.frameSize = a.module.frameSize := by
  have hpublishing := h.publishing
  rw [h.apart.loading e (he ▸ List.mem_singleton_self e) hloads] at hpublishing
  exact hpublishing

/-- Another step of `my_open` or `my_release`. -/
theorem with_entering (h : Matches s a) {m : Module} {e : Entering}
    (hpublishing : PublishingMatches a m s.publishing)
    (hentering : EntryMatches a m.container e)
    (hnot : ∀ x r openCount, s.reading x = some r → e ≠ .releasing x openCount)
    (hapart : Apart { s with module := m, entering := [e] }) :
    Matches { s with module := m, entering := [e] } a where
  live := h.live
  offset := h.offset
  publishing := hpublishing
  entering := hentering
  reading := fun x r hr => ⟨(h.reading x r hr).1, fun openCount he =>
    hnot x r openCount hr (List.mem_singleton.mp he).symm⟩
  apart := hapart

/-- Another step of `my_read`. -/
theorem with_reading (h : Matches s a) {x : Handle} {r : Reading}
    (hreading : ReadingMatches a x r)
    (hnot : ∀ openCount, .releasing x openCount ∉ s.entering) :
    Matches { s with reading := Function.update s.reading x (some r) } a where
  live := h.live
  offset := h.offset
  publishing := h.publishing
  entering := h.entering
  reading := fun y r' hr' => by
    by_cases hne : y = x
    · subst hne
      simp only [Function.update_self] at hr'
      cases hr'
      exact ⟨hreading, hnot⟩
    · simp only [Function.update_of_ne hne] at hr'
      exact h.reading y r' hr'
  apart := ⟨h.apart.loading, h.apart.alone, h.apart.packet⟩

/-- An access that ends no call is not seen. -/
theorem silent (h : Matches s a) (hinv : a.Invariant calls) (hstep : Step s none t)
    (hapart : t.Apart) : Matches t a := by
  have hentering := h.entering
  have hpublishing := h.publishing
  cases hstep with
  | publishStarts hnone =>
    rw [hnone] at hpublishing
    have hb := hapart.packet _ rfl
    exact {
      live := h.live
      offset := h.offset
      publishing := ⟨hb, Nat.zero_le _, Nat.min_eq_left hb, hpublishing.1⟩
      entering := h.entering
      reading := h.reading
      apart := hapart }
  | bytePublished hp hlt hb hbuffer =>
    rw [hp] at hpublishing
    obtain ⟨hle, -, hsize, hwritten⟩ := hpublishing
    rw [hwritten] at hbuffer
    have hinside := hinv.sound.buffer_length
    exact {
      live := h.live
      offset := h.offset
      publishing := ⟨hle, hlt, hsize, copy_turn (by omega) hb hbuffer⟩
      entering := h.entering
      reading := h.reading
      apart := hapart }
  | openLoads hh _ hcount =>
    have hfree : s.entering = [] := hapart.free (m := s.module)
    simp only [hfree] at hentering hapart ⊢
    refine h.with_entering hpublishing ⟨by rwa [← h.live], ?_, hentering⟩
      (fun _ _ _ _ => Entering.noConfusion) hapart
    rw [← hentering]
    omega
  | openCounts hh _ hcount =>
    have hfree : s.entering = [] := hapart.free (m := s.module)
    simp only [hfree] at hentering hapart ⊢
    refine h.with_entering hpublishing ⟨by rwa [← h.live], ?_, hentering⟩
      (fun _ _ _ _ => Entering.noConfusion) hapart
    rw [← hentering]
    exact iff_of_false (by decide) (by omega)
  | sized before after hloading =>
    obtain ⟨rfl, rfl⟩ := h.apart.only hloading
    obtain ⟨-, hsize⟩ := h.global_eq hloading rfl
    rw [hloading] at hentering
    obtain ⟨hx, hcount, hcontainer⟩ := hentering
    have hle := hinv.sound.frameSize_le
    refine h.with_entering hpublishing ⟨hx, hcount, ?_, Nat.zero_le _, hcontainer⟩
      (fun _ _ _ _ => Entering.noConfusion) hapart
    rw [hsize, Nat.min_eq_right hle]
  | byteLoaded before after hcopying hlt hb hframe =>
    obtain ⟨rfl, rfl⟩ := h.apart.only hcopying
    obtain ⟨hbuffer, -⟩ := h.global_eq hcopying rfl
    rw [hcopying] at hentering
    obtain ⟨hx, hcount, hsize, -, hcontainer⟩ := hentering
    have hle := hinv.sound.frameSize_le
    have hinside := hinv.sound.loadedFrame_length
    rw [hbuffer] at hb
    rw [hcontainer] at hframe
    have hturn := copy_turn (by omega) hb hframe
    refine h.with_entering hpublishing ⟨hx, hcount, hsize, hlt, ?_⟩
      (fun _ _ _ _ => Entering.noConfusion) hapart
    rw [withLoadedFrame, hcontainer, hturn]
  | loaded before after hcopying =>
    obtain ⟨rfl, rfl⟩ := h.apart.only hcopying
    obtain ⟨-, hglobal⟩ := h.global_eq hcopying rfl
    rw [hcopying] at hentering
    obtain ⟨hx, hcount, hsize, -, hcontainer⟩ := hentering
    refine h.with_entering hpublishing ⟨hx, iff_of_true rfl hcount, ?_⟩
      (fun _ _ _ _ => Entering.noConfusion) hapart
    rw [if_pos rfl, hcontainer, hglobal, hsize]
    rfl
  | @counted _ loaded before after hcounting =>
    obtain ⟨rfl, rfl⟩ := h.apart.only hcounting
    rw [hcounting] at hentering
    obtain ⟨hx, hloaded, hcontainer⟩ := hentering
    refine h.with_entering hpublishing ⟨hx, hloaded, ?_, hcontainer⟩
      (fun _ _ _ _ => Entering.noConfusion) hapart
    rw [hcontainer]
    cases loaded <;> rfl
  | releaseCounts hh _ hnone =>
    have hfree : s.entering = [] := hapart.free (m := s.module)
    simp only [hfree] at hentering hapart ⊢
    refine h.with_entering hpublishing ⟨by rwa [← h.live], ?_, hentering⟩ ?_ hapart
    · rw [hentering]
    · intro y r openCount hr he
      cases he
      rw [hnone] at hr
      cases hr
  | readStarts hh hnot _ =>
    rw [h.live] at hh
    refine h.with_reading ⟨hh, ?_, Nat.zero_le _, rfl⟩ hnot
    rw [hentering.container_eq hinv ⟨_, hh⟩, h.offset]
  | byteRead hreading _ hlt hb =>
    obtain ⟨⟨hx, hlen, -, hcopied⟩, hnot⟩ := h.reading _ _ hreading
    refine h.with_reading ⟨hx, hlen, ?_, ?_⟩ hnot
    · rw [List.length_append, List.length_singleton]
      exact hlt
    · rw [hentering.container_eq hinv ⟨_, hx⟩] at hb
      rw [List.length_append, List.length_singleton, List.take_add_one, ← hcopied,
        getElem?_of_readByte hb, Option.toList_some]

/-- An access is a call made at once, or nothing. -/
theorem step (h : Matches s a) (hinv : a.Invariant calls) {e : Option DeviceCall}
    (hstep : ApartStep s e t) : ∃ a', Run DeviceState.Step a e.toList a' ∧ Matches t a' := by
  obtain ⟨hstep, hapart⟩ := hstep
  cases e with
  | none => exact ⟨a, .nil a, h.silent hinv hstep hapart⟩
  | some c =>
    obtain ⟨a', hcall, hmatches⟩ : ∃ a', DeviceState.Step a c a' ∧ Matches t a' := by
      cases hstep with
      | publishEnds hp hend => exact h.publishEnds hinv hp hend
      | opened before after hstoring =>
        obtain ⟨rfl, rfl⟩ := h.apart.only hstoring
        exact h.opened hinv hstoring
      | released before after hreleasing =>
        obtain ⟨rfl, rfl⟩ := h.apart.only hreleasing
        exact h.released hreleasing
      | readEnds hreading hlen hend => exact h.readEnds hreading hlen hend
      | readFails hreading hlen => exact absurd (h.len_lt hinv hreading) (by omega)
    exact ⟨a', (Run.nil a).snoc hcall, hmatches⟩

/-- `update_beacon` goes on. -/
theorem publishing_goes_on (h : Matches s a) (hinv : a.Invariant calls) {p : Publishing}
    (hp : s.publishing = some p) : ∃ c t, ApartStep s c t ∧ t.publishing ≠ some p := by
  have hpublishing := h.publishing
  rw [hp] at hpublishing
  obtain ⟨hle, hwritten, -, hbuffer⟩ := hpublishing
  have hinside := hinv.sound.buffer_length
  have hloads : ∀ e ∈ s.entering, e.loads = true → False := by
    intro e he hloads
    have hnone := h.apart.loading e he hloads
    rw [hp] at hnone
    cases hnone
  rcases Nat.lt_or_eq_of_le hwritten with hlt | hend
  · have hb : readByte p.packet p.written = .ok p.packet[p.written] := by
      rw [readByte, List.getElem?_eq_getElem hlt]
    have hroom : p.written < s.module.buffer.length := by
      rw [hbuffer, List.length_append, List.length_take, List.length_drop]
      omega
    refine ⟨_, _, ⟨.bytePublished hp hlt hb (if_pos hroom), fun e he hl =>
      (hloads e he hl).elim, h.apart.alone, fun p' hp' => ?_⟩, fun he => ?_⟩
    · cases hp'
      exact hle
    · have hsame : p.written + 1 = p.written := congrArg Publishing.written (Option.some.inj he)
      omega
  · exact ⟨_, _, ⟨.publishEnds hp hend, fun _ _ _ => rfl, h.apart.alone, fun _ hp' => by cases hp'⟩,
      (Option.some_ne_none p).symm⟩

/-- So does `my_open` or `my_release`. -/
theorem entering_goes_on (h : Matches s a) (hinv : a.Invariant calls) {e : Entering}
    (hmem : e ∈ s.entering) : ∃ c t, ApartStep s c t ∧ e ∉ t.entering := by
  have he := h.apart.eq_singleton hmem
  have hentering := h.entering
  rw [he] at hentering
  have hne {e' : Entering} (hne : e' ≠ e) : e ∉ [e'] := fun hmem =>
    hne (List.mem_singleton.mp hmem).symm
  cases e with
  | loading x => exact ⟨_, _, ⟨.sized [] [] he, h.apart.with_entering _ he fun _ => rfl⟩,
    hne Entering.noConfusion⟩
  | counting x loaded =>
    exact ⟨_, _, ⟨.counted [] [] he, h.apart.with_entering _ he id⟩,
      hne Entering.noConfusion⟩
  | storing x loaded openCount =>
    exact ⟨_, _, ⟨.opened [] [] he, h.apart.without _⟩, List.not_mem_nil⟩
  | releasing x openCount =>
    exact ⟨_, _, ⟨.released [] [] he, h.apart.without _⟩, List.not_mem_nil⟩
  | copying x minSize i =>
    obtain ⟨-, -, hsize, hle, hcontainer⟩ := hentering
    rcases Nat.lt_or_eq_of_le hle with hlt | rfl
    · obtain ⟨hbuffer, -⟩ := h.global_eq he rfl
      have hglobal := hinv.sound.buffer_length
      have hloaded := hinv.sound.loadedFrame_length
      have hmax := hinv.sound.frameSize_le
      have hinside : i < s.module.buffer.length := by rw [hbuffer]; omega
      have hroom : i < s.module.container.loadedFrame.length := by
        rw [hcontainer, List.length_append, List.length_take, List.length_drop]
        omega
      have hb : readByte s.module.buffer i = .ok s.module.buffer[i] := by
        rw [readByte, List.getElem?_eq_getElem hinside]
      refine ⟨_, _, ⟨.byteLoaded [] [] he hlt hb (if_pos hroom),
        h.apart.with_entering _ he fun _ => rfl⟩, hne fun hsame => ?_⟩
      have hnext : i + 1 = i := by injection hsame
      omega
    · exact ⟨_, _, ⟨.loaded [] [] he, h.apart.with_entering _ he fun _ => rfl⟩,
        hne Entering.noConfusion⟩

/-- So does `my_read`. -/
theorem reading_goes_on (h : Matches s a) (hinv : a.Invariant calls) {x : Handle} {r : Reading}
    (hr : s.reading x = some r) : ∃ c t, ApartStep s c t ∧ t.reading x ≠ some r := by
  obtain ⟨⟨hx, hlen, hle, -⟩, -⟩ := h.reading x r hr
  have hsmall := h.len_lt hinv hr
  have hapart : ∀ reading offset, Apart { s with reading := reading, offset := offset } :=
    fun _ _ => ⟨h.apart.loading, h.apart.alone, h.apart.packet⟩
  rcases Nat.lt_or_eq_of_le hle with hlt | hend
  · obtain ⟨b, -, hlength, hloaded⟩ := hinv.loaded ⟨x, hx⟩
    have hoffset := hinv.offset_le x hx
    have hsize := hinv.sound.loadedFrame_length
    rw [sub64_eq hoffset, hloaded.1] at hlen
    have hinside : r.copied.length < s.module.container.loadedFrame.length := by
      rw [h.entering.container_eq hinv ⟨x, hx⟩]
      omega
    have hb : readByte s.module.container.loadedFrame r.copied.length =
        .ok s.module.container.loadedFrame[r.copied.length] := by
      rw [readByte, List.getElem?_eq_getElem hinside]
    refine ⟨_, _, ⟨.byteRead hr hsmall hlt hb, hapart _ _⟩, fun hsame => ?_⟩
    simp only [Function.update_self] at hsame
    have hnext := congrArg (fun r : Reading => r.copied.length) (Option.some.inj hsame)
    simp only [List.length_append, List.length_singleton] at hnext
    omega
  · refine ⟨_, _, ⟨.readEnds hr hsmall hend, hapart _ _⟩, fun hsame => ?_⟩
    simp only [Function.update_self] at hsame
    cases hsame

end Matches

theorem Initial.matches (h : s.Initial a) : Matches s a where
  live := h.live
  offset := h.offset
  publishing := by rw [h.publishing, h.module_eq]; exact ⟨rfl, rfl⟩
  entering := by rw [h.entering, h.module_eq]; rfl
  reading := fun x r hr => by rw [h.reading] at hr; cases hr
  apart := by
    refine ⟨fun _ he => ?_, ?_, fun _ hp => ?_⟩
    · rw [h.entering] at he
      exact absurd he List.not_mem_nil
    · rw [h.entering]
      exact Nat.zero_le 1
    · rw [h.publishing] at hp
      cases hp

/-- The calls are those of a device whose calls are made at once. -/
theorem simulates_of_run {es : List (Option DeviceCall)} (hs : s.Initial a) (ha : a.Initial)
    (hrun : Run ApartStep s es t) :
    ∃ a', Run DeviceState.Step a es.reduceOption a' ∧ Matches t a' ∧
      ∃ calls, a'.Invariant calls := by
  refine Run.simulation (R := fun s a => Matches s a ∧ ∃ calls, a.Invariant calls) ?_ hrun
    ⟨hs.matches, [], ha.invariant⟩
  rintro s a e t ⟨hmatches, calls, hinv⟩ hstep
  obtain ⟨a', hcalls, hmatches'⟩ := hmatches.step hinv hstep
  have hinv' : ∃ calls, a'.Invariant calls :=
    Run.invariant (I := fun a => ∃ calls, a.Invariant calls)
      (fun _ _ _ ⟨_, hi⟩ hst => ⟨_, hi.step hst⟩) hcalls ⟨calls, hinv⟩
  exact ⟨a', hcalls, hmatches', hinv'⟩

end

/-! ### A run -/

section
variable {m : Module} {es : List Entering} {reading : Handle → Option Reading}
variable {live : Finset Handle} {offset : Handle → Nat} {x y : UInt8} {rest : List UInt8}

/-- A beacon of two bytes is published, whatever else is under way. -/
theorem publishes_two (hbuffer : m.buffer = x :: y :: rest) (b₀ b₁ : UInt8) :
    Run (fun s c t => Step s c t ∧ t.entering = es ∧
        ∀ p, t.publishing = some p → p.packet.length ≤ beaconMaxSize)
      ⟨m, none, es, reading, live, offset⟩
      [none, none, none, some (.updateBeacon [b₀, b₁])]
      ⟨⟨b₀ :: b₁ :: rest, 2, m.container⟩, none, es, reading, live, offset⟩ := by
  obtain ⟨buffer, frameSize, c⟩ := m
  obtain rfl : buffer = x :: y :: rest := hbuffer
  have hlength : [b₀, b₁].length ≤ beaconMaxSize := by rw [beaconMaxSize]; exact Nat.le_add_left 2 _
  have hfits (i : Nat) (p : Publishing) (hp : some (Publishing.mk [b₀, b₁] i) = some p) :
      p.packet.length ≤ beaconMaxSize := by
    obtain rfl := Option.some.inj hp
    exact hlength
  have h₁ : Step ⟨⟨x :: y :: rest, frameSize, c⟩, none, es, reading, live, offset⟩ none
      ⟨⟨x :: y :: rest, 2, c⟩, some ⟨[b₀, b₁], 0⟩, es, reading, live, offset⟩ :=
    .publishStarts (b := [b₀, b₁]) rfl
  have h₂ : Step ⟨⟨x :: y :: rest, 2, c⟩, some ⟨[b₀, b₁], 0⟩, es, reading, live, offset⟩ none
      ⟨⟨b₀ :: y :: rest, 2, c⟩, some ⟨[b₀, b₁], 1⟩, es, reading, live, offset⟩ :=
    .bytePublished (p := ⟨[b₀, b₁], 0⟩) rfl Nat.two_pos rfl rfl
  have h₃ : Step ⟨⟨b₀ :: y :: rest, 2, c⟩, some ⟨[b₀, b₁], 1⟩, es, reading, live, offset⟩ none
      ⟨⟨b₀ :: b₁ :: rest, 2, c⟩, some ⟨[b₀, b₁], 2⟩, es, reading, live, offset⟩ :=
    .bytePublished (p := ⟨[b₀, b₁], 1⟩) rfl Nat.one_lt_two rfl rfl
  have h₄ : Step ⟨⟨b₀ :: b₁ :: rest, 2, c⟩, some ⟨[b₀, b₁], 2⟩, es, reading, live, offset⟩
      (some (.updateBeacon [b₀, b₁]))
      ⟨⟨b₀ :: b₁ :: rest, 2, c⟩, none, es, reading, live, offset⟩ :=
    .publishEnds (p := ⟨[b₀, b₁], 2⟩) rfl rfl
  exact ((((Run.nil _).snoc ⟨h₁, rfl, hfits 0⟩).snoc ⟨h₂, rfl, hfits 1⟩).snoc
    ⟨h₃, rfl, hfits 2⟩).snoc ⟨h₄, rfl, fun _ hp => by cases hp⟩

/-- A step to a state where nothing is published. -/
theorem apart {s t : ByteState} {c : Option DeviceCall} (h : Step s c t)
    (hnone : t.publishing = none) (halone : t.entering.length ≤ 1) : ApartStep s c t :=
  ⟨h, fun _ _ _ => hnone, halone, fun _ hp => by rw [hnone] at hp; cases hp⟩

/-- The first byte of the frame is loaded. -/
theorem loads_first {z w : UInt8} {rest' : List UInt8} {n : Nat}
    (hfree : (0 : Handle) ∉ live) :
    Run ApartStep ⟨⟨x :: y :: rest, 2, ⟨z :: w :: rest', n, 0⟩⟩, none, [], reading, live, offset⟩
      [none, none, none]
      ⟨⟨x :: y :: rest, 2, ⟨x :: w :: rest', n, 0⟩⟩, none, [.copying 0 2 1], reading, live,
        offset⟩ := by
  have h₁ : Step ⟨⟨x :: y :: rest, 2, ⟨z :: w :: rest', n, 0⟩⟩, none, [], reading, live, offset⟩
      none ⟨⟨x :: y :: rest, 2, ⟨z :: w :: rest', n, 0⟩⟩, none, [.loading 0], reading, live,
        offset⟩ := .openLoads hfree (fun _ he => absurd he List.not_mem_nil) Nat.one_pos
  have h₂ : Step ⟨⟨x :: y :: rest, 2, ⟨z :: w :: rest', n, 0⟩⟩, none, [.loading 0], reading,
      live, offset⟩ none ⟨⟨x :: y :: rest, 2, ⟨z :: w :: rest', n, 0⟩⟩, none,
        [.copying 0 2 0], reading, live, offset⟩ := .sized [] [] rfl
  have h₃ : Step ⟨⟨x :: y :: rest, 2, ⟨z :: w :: rest', n, 0⟩⟩, none, [.copying 0 2 0],
      reading, live, offset⟩ none ⟨⟨x :: y :: rest, 2, ⟨x :: w :: rest', n, 0⟩⟩, none,
        [.copying 0 2 1], reading, live, offset⟩ :=
    .byteLoaded [] [] rfl Nat.two_pos rfl rfl
  exact (((Run.nil _).snoc (apart h₁ rfl (Nat.le_refl 1))).snoc (apart h₂ rfl (Nat.le_refl 1))).snoc
    (apart h₃ rfl (Nat.le_refl 1))

/-- The second byte is loaded, and the frame is open. -/
theorem loads_second {v w : UInt8} {rest' : List UInt8} {n : Nat} :
    Run ApartStep ⟨⟨x :: y :: rest, 2, ⟨v :: w :: rest', n, 0⟩⟩, none, [.copying 0 2 1],
        reading, live, offset⟩
      [none, none, none, some (.myOpen 0)]
      ⟨⟨x :: y :: rest, 2, ⟨v :: y :: rest', 2, add64 0 1⟩⟩, none, [], reading, insert 0 live,
        Function.update offset 0 0⟩ := by
  have h₁ : Step ⟨⟨x :: y :: rest, 2, ⟨v :: w :: rest', n, 0⟩⟩, none, [.copying 0 2 1],
      reading, live, offset⟩ none ⟨⟨x :: y :: rest, 2, ⟨v :: y :: rest', n, 0⟩⟩, none,
        [.copying 0 2 2], reading, live, offset⟩ :=
    .byteLoaded [] [] rfl Nat.one_lt_two rfl rfl
  have h₂ : Step ⟨⟨x :: y :: rest, 2, ⟨v :: y :: rest', n, 0⟩⟩, none, [.copying 0 2 2],
      reading, live, offset⟩ none ⟨⟨x :: y :: rest, 2, ⟨v :: y :: rest', 2, 0⟩⟩, none,
        [.counting 0 true], reading, live, offset⟩ := .loaded [] [] rfl
  have h₃ : Step ⟨⟨x :: y :: rest, 2, ⟨v :: y :: rest', 2, 0⟩⟩, none, [.counting 0 true],
      reading, live, offset⟩ none ⟨⟨x :: y :: rest, 2, ⟨v :: y :: rest', 2, 0⟩⟩, none,
        [.storing 0 true (add64 0 1)], reading, live, offset⟩ := .counted [] [] rfl
  exact ((((Run.nil _).snoc (apart h₁ rfl (Nat.le_refl 1))).snoc
    (apart h₂ rfl (Nat.le_refl 1))).snoc (apart h₃ rfl (Nat.le_refl 1))).snoc
    (apart (.opened [] [] rfl) rfl (Nat.zero_le 1))

/-- One byte of the frame is read. -/
theorem reads_one (s : ByteState) (bufferSize : Nat) {frame : List UInt8}
    (hpublishing : s.publishing = none) (hfree : s.entering = [])
    (hframe : s.module.container.loadedFrame = x :: frame)
    (hlen : min (sub64 s.module.container.frameSize (s.offset 0)) bufferSize = 1)
    (hlive : 0 ∈ s.live) (hnone : s.reading 0 = none) :
    ∃ reading, Run ApartStep s
        [none, none, some (.myRead 0 bufferSize ⟨1, [x], add64 (s.offset 0) 1⟩)]
        { s with
          reading := reading
          offset := Function.update s.offset 0 (add64 (s.offset 0) 1) } ∧
      reading 0 = none := by
  have hsmall : 1 < 2 ^ 63 := by decide
  have halone : s.entering.length ≤ 1 := by
    rw [hfree]
    exact Nat.zero_le 1
  have h₁ : Step s none { s with
      reading := Function.update s.reading 0 (some
        ⟨bufferSize, min (sub64 s.module.container.frameSize (s.offset 0)) bufferSize, []⟩) } :=
    .readStarts hlive (fun _ => by rw [hfree]; exact List.not_mem_nil) hnone
  rw [hlen] at h₁
  have hb : readByte s.module.container.loadedFrame 0 = .ok x := by
    rw [hframe]
    rfl
  have h₂ := ((Run.nil _).snoc (apart h₁ hpublishing halone)).snoc (apart
    (.byteRead (r := ⟨bufferSize, 1, []⟩) (b := x) (Function.update_self _ _ _) hsmall
      Nat.one_pos hb) hpublishing halone)
  have h₃ := h₂.snoc (apart (.readEnds (r := ⟨bufferSize, 1, [x]⟩) (Function.update_self _ _ _)
    hsmall rfl) hpublishing halone)
  exact ⟨_, h₃, Function.update_self _ _ _⟩

/-- The frame is read. -/
theorem reads_two {buffer rest' : List UInt8} {frameSize openCount : Nat} (hlive : 0 ∈ live)
    (hnone : reading 0 = none) (hoffset : offset 0 = 0) :
    ∃ t, Run ApartStep
      ⟨⟨buffer, frameSize, ⟨x :: y :: rest', 2, openCount⟩⟩, none, [], reading, live, offset⟩
      [none, none, none, some (.myRead 0 beaconMaxSize ⟨2, [x, y], add64 (offset 0) 2⟩)] t := by
  have hlen : min (sub64 2 (offset 0)) beaconMaxSize = 2 := by
    rw [hoffset, sub64_eq (Nat.zero_le 2)]
    decide
  have hsmall : 2 < 2 ^ 63 := by decide
  have h₁ : Step
      ⟨⟨buffer, frameSize, ⟨x :: y :: rest', 2, openCount⟩⟩, none, [], reading, live, offset⟩ none
      ⟨⟨buffer, frameSize, ⟨x :: y :: rest', 2, openCount⟩⟩, none, [], Function.update reading 0
        (some ⟨beaconMaxSize, min (sub64 2 (offset 0)) beaconMaxSize, []⟩), live, offset⟩ :=
    .readStarts hlive (fun _ => List.not_mem_nil) hnone
  rw [hlen] at h₁
  have h₂ := ((Run.nil _).snoc (apart h₁ rfl (Nat.zero_le 1))).snoc (apart
    (.byteRead (r := ⟨beaconMaxSize, 2, []⟩) (b := x) (Function.update_self _ _ _) hsmall
      Nat.two_pos rfl) rfl (Nat.zero_le 1))
  have h₃ := h₂.snoc (apart
    (.byteRead (r := ⟨beaconMaxSize, 2, [x]⟩) (b := y) (Function.update_self _ _ _) hsmall
      Nat.one_lt_two rfl) rfl (Nat.zero_le 1))
  have h₄ := h₃.snoc (apart (.readEnds (r := ⟨beaconMaxSize, 2, [x, y]⟩)
    (Function.update_self _ _ _) hsmall rfl) rfl (Nat.zero_le 1))
  exact ⟨_, h₄⟩

end

/-- The arrays have room for two bytes. -/
theorem Initial.shape {s : ByteState} {a : DeviceState} (hs : s.Initial a) (ha : a.Initial) :
    ∃ x y rest z w rest' n offset, s =
      ⟨⟨x :: y :: rest, 0, ⟨z :: w :: rest', n, 0⟩⟩, none, [], fun _ => none, ∅, offset⟩ := by
  have htwo {bytes : List UInt8} (h : bytes.length = beaconMaxSize) :
      ∃ x y rest, bytes = x :: y :: rest := by
    rw [beaconMaxSize] at h
    cases bytes with
    | nil => cases h
    | cons x bytes =>
      cases bytes with
      | nil => cases h
      | cons y rest => exact ⟨x, y, rest, rfl⟩
  obtain ⟨m, publishing, entering, reading, live, offset⟩ := s
  obtain rfl : m = a.module := hs.module_eq
  obtain rfl : publishing = none := hs.publishing
  obtain rfl : entering = [] := hs.entering
  obtain rfl : reading = fun _ => none := funext hs.reading
  obtain rfl : live = ∅ := hs.live.trans ha.live
  obtain ⟨x, y, rest, hbuffer⟩ := htwo ha.buffer_length
  obtain ⟨z, w, rest', hloadedFrame⟩ := htwo ha.loadedFrame_length
  refine ⟨x, y, rest, z, w, rest', a.module.container.frameSize, offset, ?_⟩
  congr 1
  rw [← hbuffer, ← hloadedFrame]
  calc a.module = ⟨a.module.buffer, a.module.frameSize, ⟨a.module.container.loadedFrame,
        a.module.container.frameSize, a.module.container.openCount⟩⟩ := rfl
    _ = _ := by rw [ha.frameSize, ha.openCount]

section
variable {s t : ByteState} {a : DeviceState}

/-- **The calls might as well be made at once**, each when it ends, whenever no beacon is
published while a `my_open` loads one, one process at a time is in `my_open` or `my_release` and
the beacons fit; and what a process reads through a handle, for as long as it has it, are then
beginnings of one beacon, as it was published before the end of its open. -/
theorem reads_whole {es : List (Option DeviceCall)} (hs : s.Initial a) (ha : a.Initial)
    (hrun : Run ApartStep s es t) :
    (∃ a', Run DeviceState.Step a es.reduceOption a' ∧ Matches t a') ∧
    ∀ before h during, es = before ++ some (.myOpen h) :: during →
      some (.myRelease h) ∉ during →
      ∃ b ∈ DeviceCall.published before.reduceOption,
        DeviceCall.copiedTo h during.reduceOption =
          Module.beginnings b 0 (DeviceCall.askedOn h during.reduceOption) := by
  obtain ⟨a', hcalls, hmatches, -⟩ := simulates_of_run hs ha hrun
  refine ⟨⟨a', hcalls, hmatches⟩, ?_⟩
  rintro before h during rfl hduring
  rw [List.reduceOption_append, List.reduceOption_cons_of_some] at hcalls
  exact DeviceState.copied_of_run ha hcalls fun hmem =>
    hduring (List.reduceOption_mem_iff.mp hmem)

end

/-- The device after `my_init`. -/
def byteBoot : ByteState :=
  ⟨DeviceState.boot.module, none, [], fun _ => none, ∅, fun _ => 0⟩

theorem byteBoot_initial : byteBoot.Initial DeviceState.boot :=
  ⟨rfl, rfl, rfl, fun _ => rfl, rfl, rfl⟩

/-- A beacon of two bytes is published and loaded. -/
def loadingCalls : List (Option DeviceCall) :=
  [none, none, none, some (.updateBeacon [1, 2]), none, none, none, none, none, none]

/-- Then one byte is asked for, and then all that is left: the first byte is read twice. -/
def readingCalls : List (Option DeviceCall) :=
  [none, none, some (.myRead 0 1 ⟨1, [1], 1⟩), none, none,
    some (.myRead 0 8191 ⟨1, [1], 2⟩)]

theorem byteBoot_run : ∃ t,
    Run ApartStep byteBoot (loadingCalls ++ some (.myOpen 0) :: readingCalls) t := by
  obtain ⟨x, y, rest, z, w, rest', n, offset, hboot⟩ :=
    byteBoot_initial.shape DeviceState.boot_initial
  have hpublish : Run ApartStep
      ⟨⟨x :: y :: rest, 0, ⟨z :: w :: rest', n, 0⟩⟩, none, [], fun _ => none, ∅, offset⟩ _
      ⟨⟨1 :: 2 :: rest, 2, ⟨z :: w :: rest', n, 0⟩⟩, none, [], fun _ => none, ∅, offset⟩ :=
    (publishes_two rfl 1 2).mono fun _ _ _ h => ⟨h.1,
      fun e he => by rw [h.2.1] at he; exact absurd he List.not_mem_nil,
      by rw [h.2.1]; exact Nat.zero_le 1, h.2.2⟩
  have hopened := (hpublish.append (loads_first (Finset.notMem_empty 0))).append loads_second
  obtain ⟨reading, hfirst, hnone⟩ := reads_one ⟨⟨1 :: 2 :: rest, 2, ⟨1 :: 2 :: rest', 2,
    add64 0 1⟩⟩, none, [], fun _ => none, insert 0 ∅, Function.update offset 0 0⟩ 1 rfl rfl rfl rfl
    (Finset.mem_insert_self 0 ∅) rfl
  obtain ⟨reading', hsecond, -⟩ := reads_one ⟨⟨1 :: 2 :: rest, 2, ⟨1 :: 2 :: rest', 2,
    add64 0 1⟩⟩, none, [], reading, insert 0 ∅, Function.update (Function.update offset 0 0) 0
      (add64 0 1)⟩ 8191 rfl rfl rfl rfl (Finset.mem_insert_self 0 ∅) hnone
  rw [hboot]
  exact ⟨_, (hopened.append hfirst).append hsecond⟩

/-- What is read in that run. -/
theorem reads_whole_boot : ∃ t,
    Run ApartStep byteBoot (loadingCalls ++ some (.myOpen 0) :: readingCalls) t ∧
    DeviceCall.copiedTo 0 readingCalls.reduceOption = [[1], [1]] ∧
    ∃ b ∈ DeviceCall.published loadingCalls.reduceOption,
      DeviceCall.copiedTo 0 readingCalls.reduceOption =
        Module.beginnings b 0 (DeviceCall.askedOn 0 readingCalls.reduceOption) := by
  obtain ⟨t, hrun⟩ := byteBoot_run
  have hkept : some (.myRelease 0) ∉ readingCalls := by simp [readingCalls]
  exact ⟨t, hrun, rfl,
    (reads_whole byteBoot_initial DeviceState.boot_initial hrun).2 _ 0 _ rfl hkept⟩

section
variable {s t : ByteState} {a : DeviceState}

/-- **No access is outside the arrays**: in every state that such a run reaches, each call
that is under way can go on. -/
theorem accesses_inside {es : List (Option DeviceCall)} (hs : s.Initial a) (ha : a.Initial)
    (hrun : Run ApartStep s es t) :
    (∀ p, t.publishing = some p → ∃ c u, ApartStep t c u ∧ u.publishing ≠ some p) ∧
    (∀ e ∈ t.entering, ∃ c u, ApartStep t c u ∧ e ∉ u.entering) ∧
    ∀ h r, t.reading h = some r → ∃ c u, ApartStep t c u ∧ u.reading h ≠ some r := by
  obtain ⟨a', hcalls, hmatches, calls, hinv⟩ := simulates_of_run hs ha hrun
  exact ⟨fun p hp => hmatches.publishing_goes_on hinv hp,
    fun e he => hmatches.entering_goes_on hinv he,
    fun h r hr => hmatches.reading_goes_on hinv hr⟩

end

/-- The first access of `update_beacon` is not the last one. -/
theorem accesses_inside_boot : ∃ t, Run ApartStep byteBoot [none] t ∧
    t.publishing = some ⟨[7], 0⟩ ∧
    ∃ c u, ApartStep t c u ∧ u.publishing ≠ some ⟨[7], 0⟩ := by
  have hstep : Step byteBoot none { byteBoot with
      module := { byteBoot.module with frameSize := min 1 beaconMaxSize }
      publishing := some ⟨[7], 0⟩ } := .publishStarts (b := [7]) rfl
  have hrun : Run ApartStep byteBoot [none] _ := (Run.nil _).snoc ⟨hstep,
    fun _ he => absurd he List.not_mem_nil, Nat.zero_le 1, fun p hp => by cases hp; decide⟩
  exact ⟨_, hrun, rfl, (accesses_inside byteBoot_initial DeviceState.boot_initial hrun).1 _ rfl⟩

/-- **A frame that nobody has sent**: two beacons are published, the second one while the
first is loaded, and a process reads a byte of each. -/
theorem torn_read {s : ByteState} {a : DeviceState} (hs : s.Initial a) (ha : a.Initial) :
    ∃ es t, Run Step s es t ∧
      DeviceCall.published es.reduceOption = [[], [1, 2], [3, 4]] ∧
      DeviceCall.copiedTo 0 es.reduceOption = [[1, 4]] := by
  obtain ⟨x, y, rest, z, w, rest', n, offset, rfl⟩ := hs.shape ha
  have hfirst : Run Step
      ⟨⟨x :: y :: rest, 0, ⟨z :: w :: rest', n, 0⟩⟩, none, [], fun _ => none, ∅, offset⟩ _
      ⟨⟨1 :: 2 :: rest, 2, ⟨z :: w :: rest', n, 0⟩⟩, none, [], fun _ => none, ∅, offset⟩ :=
    (publishes_two rfl 1 2).mono fun _ _ _ h => h.1
  have hload := hfirst.append ((loads_first (Finset.notMem_empty 0)).mono fun _ _ _ h => h.1)
  have hsecond := hload.append ((publishes_two rfl 3 4).mono fun _ _ _ h => h.1)
  have hopened := hsecond.append (loads_second.mono fun _ _ _ h => h.1)
  obtain ⟨t, hread⟩ : ∃ t, Run ApartStep
      ⟨⟨3 :: 4 :: rest, 2, ⟨1 :: 4 :: rest', 2, add64 0 1⟩⟩, none, [], fun _ => none, insert 0 ∅,
        Function.update offset 0 0⟩ _ t :=
    reads_two (Finset.mem_insert_self 0 ∅) rfl (Function.update_self 0 0 offset)
  exact ⟨_, t, hopened.append (hread.mono fun _ _ _ h => h.1), rfl, rfl⟩

/-- **A file that is not counted**: two processes are in `my_open` at once, and the counter says
that one of them has the device open. -/
theorem lost_open {s : ByteState} {a : DeviceState} (hs : s.Initial a) (ha : a.Initial) :
    ∃ es t, Run Step s es t ∧ es.reduceOption = [.myOpen 0, .myOpen 1] ∧ t.live.card = 2 ∧
      t.module.container.openCount = 1 := by
  obtain ⟨x, y, rest, z, w, rest', n, offset, rfl⟩ := hs.shape ha
  have h₁ : Run Step
      ⟨⟨x :: y :: rest, 0, ⟨z :: w :: rest', n, 0⟩⟩, none, [], fun _ => none, ∅, offset⟩ [none] _ :=
    (Run.nil _).snoc (.openLoads (h := 0) (Finset.notMem_empty 0)
      (fun _ he => absurd he List.not_mem_nil) Nat.one_pos)
  have h₂ := h₁.snoc (.openLoads (h := 1) (Finset.notMem_empty 1)
    (List.forall_mem_singleton.mpr (by decide)) Nat.one_pos)
  have h₃ := (h₂.snoc (.sized [] [.loading 1] rfl)).snoc (.sized [.copying 0 0 0] [] rfl)
  have h₄ := (h₃.snoc (.loaded [] [.copying 1 0 0] rfl)).snoc (.loaded [.counting 0 true] [] rfl)
  have h₅ := (h₄.snoc (.counted [] [.counting 1 true] rfl)).snoc
    (.counted [.storing 0 true 1] [] rfl)
  have h₆ := (h₅.snoc (.opened [] [.storing 1 true 1] rfl)).snoc (.opened [] [] rfl)
  exact ⟨_, _, h₆, rfl, rfl, rfl⟩

end ByteState

end SnapDesk
