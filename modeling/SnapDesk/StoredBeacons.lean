import SnapDesk.Deployment

/-! # From the device to the files

A script that hashes well-formed arguments yields a digest of every beacon that decodes
(`fingerprints_received`).  So whatever the drivers and other processes do with the device
meanwhile, the data files are the registers of the beacons that the program has sampled,
and nothing else has been notified of (`stored_of_run`), as long as the file system does what
it is asked for: it makes no files for names that are too long, so those are left out. -/
namespace SnapDesk
open Transition Register BigNumber

/-! ### Scripts that hash -/

theorem isXDigit_lowerHexByte : ∀ b : UInt8, (lowerHexByte b).length = 2 ∧
    ∀ c ∈ lowerHexByte b, isXDigit c = true := by decide +kernel

/-- A digest in hexadecimal digits. -/
theorem isDigest_lowerHex (d : Vector UInt8 32) : IsDigest (d.toList.flatMap lowerHexByte) := by
  constructor
  · have htwo : d.toList.map (fun b => (lowerHexByte b).length) = List.replicate 32 2 := by
      rw [List.eq_replicate_iff]
      refine ⟨by simp, fun n hn => ?_⟩
      obtain ⟨b, -, rfl⟩ := List.mem_map.mp hn
      exact (isXDigit_lowerHexByte b).1
    rw [List.length_flatMap, htwo]
    rfl
  · intro c hc
    obtain ⟨b, -, hb⟩ := List.mem_flatMap.mp hc
    exact (isXDigit_lowerHexByte b).2 c hb

/-- The script hashes its arguments, which are well formed. -/
def HashesArgs (tree : Node) : Prop :=
  ∃ args, tree = .root (some (.function .sha256 args)) ∧ Node.allWellFormed args = true

/-- The longest name of a file. -/
def nameMax : Nat := 255

/-- A name that both files can have. -/
def IsFileName (ssid : Str) : Prop :=
  slash ∉ ssid ∧ ssid.length + metadataExtention.length ≤ nameMax

instance (ssid : Str) : Decidable (IsFileName ssid) :=
  inferInstanceAs (Decidable (_ ∧ _))

/-- A beacon that may be published: it decodes if it has a header, its size does not wrap
around, and files can have its name. -/
structure Storable (b : List UInt8) : Prop where
  sized : WellSized (some [b])
  decodes : isStray (some [b]) = false
  named : ∀ (f : Frame) (element : BigNumber) (ssid : Str), received (some [b]) = .ok f →
    f.getValue (lit "0") = .ok element → element.charString = .ok ssid → IsFileName ssid

/-- What is decoded has been decoded by `decode`. -/
theorem decode_run_of_received {reads : List (List UInt8)} {f : Frame}
    (h : received (some reads) = .ok f) :
    Frame.decode.run (Frame.ofBuffer (readingOf reads) (readingOf reads).length) = .ok () f := by
  obtain ⟨parsed, hparsed, h⟩ := bind_eq_ok h
  cases h
  exact (Frame.holds_ofBuffer ..).decode_run_of_ok hparsed

/-- **A turn sees a fingerprint**, or throws an exception. -/
theorem fingerprints_received (digest : Str → Vector UInt8 32) {tree : Node}
    (htree : HashesArgs tree) {b : List UInt8} (hb : Storable b) :
    Fingerprints (observeFrame digest tree (received (some [b]))) := by
  obtain ⟨args, rfl, hargs⟩ := htree
  cases hreceived : received (some [b]) with
  | error e =>
    -- decoding throws, and nothing worse
    have hparse : Frame.parse (readingOf [b]) (readingOf [b]).length = .error e := by
      cases hparse : Frame.parse (readingOf [b]) (readingOf [b]).length with
      | error e' =>
        rw [received, hparse] at hreceived
        cases hreceived
        rfl
      | ok parsed =>
        rw [received, hparse] at hreceived
        cases hreceived
    exact Frame.parse_returnsOrThrows hb.sized e hparse
  | ok f =>
    have hdecode := decode_run_of_received hreceived
    have hholds := Frame.holds_ofBuffer (readingOf [b]) (readingOf [b]).length
    have hf := Frame.isDecoded_of_ok hholds hdecode
    obtain ⟨element, helement⟩ := Frame.getValue_answered hholds hdecode
      (show Node.isAnswered (lit "0") = true by decide)
    have hvalue : Node.getValue digest f (.function .sha256 args) = _ :=
      Node.getValue_orOutOfRange hf
        (fun field hfield => Frame.getValue_answered hholds hdecode hfield) _
        (Bool.or_eq_true_iff.mpr (.inr hargs))
    rw [observeFrame, ok_bind, Node.getValue, Node.checkFrame_ok hf, ok_bind, hvalue, helement,
      Node.meaning]
    cases Node.allMeanings digest f.fieldText args with
    | none => rfl
    | some data =>
      exact ⟨isDigest_lowerHex _, fun ssid hssid =>
        (hb.named f element ssid hreceived helement hssid).1⟩

/-! ### What is stored -/

namespace Deployment
variable {digest : Str → Vector UInt8 32} {bufferSize : Nat} {w : World} {memory : List UInt8}
  {s t : Deployment} {events : List DeployEvent} {tree : Node} {script : Str}

/-- What a turn has found is storable, or it could not open the device. -/
def FindsStorable (moment : Moment) : Prop :=
  moment.device = none ∨ ∃ b, Storable b ∧ moment.device = some [b]

theorem FindsStorable.wellSized {moment : Moment} (h : FindsStorable moment) :
    WellSized moment.device := by
  rcases h with hnone | ⟨b, hb, hsome⟩
  · rw [hnone]
    rintro reads ⟨⟩
  · rw [hsome]
    exact hb.sized

theorem FindsStorable.fingerprints {moment : Moment} (h : FindsStorable moment)
    (htree : HashesArgs tree) : Fingerprints (observeFrame digest tree moment.view.1) := by
  rw [Moment.view]
  rcases h with hnone | ⟨b, hb, hsome⟩
  · rw [hnone]
    rfl
  · rw [hsome]
    exact fingerprints_received digest htree hb

/-- Storable beacons never trip the program. -/
theorem not_trips {moments : List Moment} (h : ∀ moment ∈ moments, FindsStorable moment) :
    ¬ Trips digest w moments := by
  rintro ⟨before, moment, stray, after, rfl, -, hstray⟩
  have hmem : stray ∈ before ++ moment :: stray :: after := by simp
  rcases h stray hmem with hnone | ⟨b, hb, hsome⟩
  · rw [hnone] at hstray
    cases hstray
  · rw [hsome, hb.decodes] at hstray
    cases hstray

/-- What a world holds after some turns: for every name the distinct digests of its beacons, in
the order in which the turns have first seen them, with the dates of the first and the latest;
and each has been notified of once. -/
structure Stored (digest : Str → Vector UInt8 32) (w : World) (tree : Node)
    (moments : List Moment) (w' : World) : Prop where
  files : ∀ ssid, slash ∉ ssid → 0 ∉ ssid →
    (framesOf (observeFrame digest) tree (moments.map Moment.view) ssid = [] ∧
      w'.fs (dataLoc digest w ssid) = none) ∨
    ∃ items, Kept (framesOf (observeFrame digest) tree (moments.map Moment.view) ssid) items ∧
      HasFile w' (dataPath digest w ssid) (dataLoc digest w ssid) (registerText items)
  commands : w'.commands = w.commands ++
    (seenPairs (observeFrame digest) tree (moments.map Moment.view)).eraseDups.map fun pair =>
      cStr (Communicator.notifyCommand (newApMessage pair.1))

/-- A program that finds storable beacons is the main loop, which keeps its books. -/
theorem stored_of_moments (hstarts : StartsEmpty tree w script) (htree : HashesArgs tree)
    (hmemory : memory.length = beaconFrameMaxLength) {moments : List Moment}
    (hmoments : ∀ moment ∈ moments,
      moment.memory.length = beaconFrameMaxLength ∧ FindsStorable moment)
    (hshort : moments.length < 2 ^ 31 - 1) : ∃ session desk w',
      Program.run digest w memory moments = .running session desk w' ∧
        Stored digest w tree moments w' := by
  have hobserve : ∀ input ∈ moments.map Moment.view,
      Fingerprints (observeFrame digest tree input.1) := by
    intro input hinput
    obtain ⟨moment, hm, rfl⟩ := List.mem_map.mp hinput
    exact (hmoments moment hm).2.fingerprints htree
  have hrows : RowsReadable (observeFrame digest) tree (moments.map Moment.view) :=
    rowsReadable_of_length (by rwa [List.length_map])
  have hmatches : Matches (LastReturns digest w moments) (Program.run digest w memory moments)
      (loopRun digest w moments) :=
    (run_matches hmemory moments fun moment hm =>
      ⟨(hmoments moment hm).1, (hmoments moment hm).2.wellSized⟩).1
      (not_trips fun moment hm => (hmoments moment hm).2)
  obtain ⟨session, w', hloop, hstanding, -, hhoused⟩ :=
    run_refines hstarts.boots (hstarts.proper digest hobserve hrows)
  have hprocess : (Program.run digest w memory moments).process = .running session w' := by
    rw [hmatches.process]
    exact hloop
  cases hrunning : Program.run digest w memory moments with
  | restarting _ _ => rw [hrunning] at hprocess; cases hprocess
  | undefined => rw [hrunning] at hprocess; cases hprocess
  | running session' desk w'' =>
    rw [hrunning] at hprocess
    cases hprocess
    exact ⟨session, desk, w', rfl,
      fun ssid hslash hzero => hstarts.file_kept digest hobserve hstanding hhoused hslash hzero,
      hstanding.commands.trans (hstarts.commands_eq digest hobserve)⟩

/-- What a turn has sampled is storable, if all that is published is. -/
theorem findsStorable_of_run (hrun : Run (Step digest bufferSize) s events t)
    (hstorable : ∀ b ∈ DeviceCall.published (DeployEvent.calls bufferSize events), Storable b) :
    ∀ moment ∈ sampled events,
      moment.memory.length = beaconFrameMaxLength ∧ FindsStorable moment := by
  intro moment hm
  refine ⟨length_memory_of_run hrun moment hm, ?_⟩
  refine ((mem_published_of_sampled bufferSize events).2 moment hm).imp_right ?_
  rintro ⟨b, hb, hdevice⟩
  exact ⟨b, hstorable b hb, hdevice⟩

/-- **The files hold the sampled beacons**, in any interleaving with the drivers and with other
processes: for every name the distinct digests of its beacons, in the order in which the turns
have first seen them, with the dates of the first and the latest; and each has been notified
of once. -/
theorem stored_of_run (hstarts : StartsEmpty tree w script) (htree : HashesArgs tree)
    (hmemory : memory.length = beaconFrameMaxLength) (hs : s.Initial digest w memory)
    (hbuffer : beaconMaxSize ≤ bufferSize) (hrun : Run (Step digest bufferSize) s events t)
    (hstorable : ∀ b ∈ DeviceCall.published (DeployEvent.calls bufferSize events), Storable b)
    (hshort : (sampled events).length < 2 ^ 31 - 1) :
    ∃ session desk w', t.program = .running session desk w' ∧
      (∀ ssid, slash ∉ ssid → 0 ∉ ssid →
        (framesOf (observeFrame digest) tree ((sampled events).map Moment.view) ssid = [] ∧
          w'.fs (dataLoc digest w ssid) = none) ∨
        ∃ items,
          Kept (framesOf (observeFrame digest) tree ((sampled events).map Moment.view) ssid) items ∧
          HasFile w' (dataPath digest w ssid) (dataLoc digest w ssid) (registerText items)) ∧
      w'.commands = w.commands ++
        (seenPairs (observeFrame digest) tree ((sampled events).map Moment.view)).eraseDups.map
          fun pair => cStr (Communicator.notifyCommand (newApMessage pair.1)) := by
  have hprogram := (follows_of_run hs hbuffer hrun).program
  rw [← sampled] at hprogram
  obtain ⟨session, desk, w', hrunning, hstored⟩ := stored_of_moments hstarts htree hmemory
    (findsStorable_of_run hrun hstorable) hshort
  exact ⟨session, desk, w', hprogram.trans hrunning, hstored.files, hstored.commands⟩

/-- A reading with the given answer for the name. -/
theorem storable_of_answer {b : List UInt8} (hsized : WellSized (some [b]))
    (hdecodes : isStray (some [b]) = false) {answer : Except Failure BigNumber}
    (hanswer : (received (some [b])).bind (fun f => f.getValue (lit "0")) = answer)
    (hnamed : ∀ element ssid, answer = .ok element → element.charString = .ok ssid →
      IsFileName ssid) : Storable b where
  sized := hsized
  decodes := hdecodes
  named := by
    intro f element ssid hf helement hssid
    refine hnamed element ssid ?_ hssid
    rw [← hanswer, hf]
    exact helement

theorem storable_nil : Storable [] :=
  storable_of_answer (by rintro reads ⟨⟩ ⟨h24, -⟩; exact absurd h24 (by decide)) rfl rfl
    fun _ _ h => by cases h

theorem storable_home : Storable Frame.homeBeacon.wire := by
  have hanswer : (received (some [Frame.homeBeacon.wire])).bind (fun f => f.getValue (lit "0")) =
      .ok (ofVector (lit "home")) := by decide +kernel
  refine storable_of_answer ?_ (by decide +kernel) hanswer ?_
  · rintro reads ⟨⟩ ⟨-, hlt, -⟩
    exact absurd hlt (by decide +kernel)
  · rintro element ssid ⟨⟩ hssid
    obtain rfl : lit "home" = ssid := Except.ok.inj hssid
    decide

/-- A turn on the beacon of the network `home`. -/
theorem stored_of_run_home : ∃ (rs : List ReadResult) (t : Deployment) (session : Session)
    (desk : Desk) (w' : World),
    Run (Step zeroDigest 8191) boot (turnEvents Frame.homeBeacon.wire rs) t ∧
      t.program = .running session desk w' ∧
      w'.commands = [cStr (Communicator.notifyCommand (newApMessage (lit "home")))] := by
  have hb : Frame.homeBeacon.wire.length ≤ beaconMaxSize := by decide +kernel
  obtain ⟨rs, t, hrun⟩ := boot_run hb
  have hsampled := sampled_turnEvents Frame.homeBeacon.wire rs
  have hstorable : ∀ b ∈ DeviceCall.published
      (DeployEvent.calls 8191 (turnEvents Frame.homeBeacon.wire rs)), Storable b := by
    rw [published_turnEvents]
    simp only [List.forall_mem_cons]
    exact ⟨storable_nil, storable_home, fun _ h => absurd h List.not_mem_nil⟩
  obtain ⟨session, desk, w', hrunning, -, hcommands⟩ :=
    stored_of_run (startsEmpty_homeWorld compiled_ssidScript) ⟨[.getter (lit "0")], rfl, by decide⟩
      List.length_replicate boot_initial (by decide) hrun hstorable (by rw [hsampled]; decide)
  refine ⟨rs, t, session, desk, w', hrun, hrunning, ?_⟩
  rw [hcommands, hsampled]
  decide +kernel

end Deployment
end SnapDesk
