import SnapDesk.BigNumber
import SnapDesk.Communicator
import SnapDesk.Shell

/-! # The notification of a new access point

The SSID of a beacon becomes part of a command line: `char_string` drops its zero
bytes, and `notify` puts it between double quotation marks as it is.  The shell
reads the command that is meant exactly if the SSID is text that stands for
itself there (`notify_words_iff`). -/
namespace SnapDesk
open BigNumber

/-- The message of the main loop. -/
def newApMessage (ssid : Str) : Str := lit "A new AP as been detected on SSID: " ++ ssid

namespace Communicator

/-- The command that is meant. -/
def notifyWords (message : Str) : List Str :=
  [lit "notify-send", message, lit "-a", lit "snapdesk", lit "-t", lit "5000"]

/-- The part of the command line before the message. -/
theorem words_notifyCommand (message : Str) :
    Shell.words (notifyCommand message) =
      (Shell.fromDouble [] (message ++ 34 :: lit " -a snapdesk -t 5000")).map
        (lit "notify-send" :: ·) := by
  have hline : notifyCommand message =
      lit "notify-send" ++ 32 :: 34 :: (message ++ 34 :: lit " -a snapdesk -t 5000") := by
    rw [notifyCommand, List.append_assoc]
    rfl
  rw [Shell.words, hline, Shell.fromUnquoted_word (by decide) (by decide), Shell.fromUnquoted_blank,
    Shell.fromUnquoted_quote]
  rfl

/-- The part after it. -/
theorem words_after (message : Str) :
    Shell.fromUnquoted (some message) (lit " -a snapdesk -t 5000") =
      some [message, lit "-a", lit "snapdesk", lit "-t", lit "5000"] := by
  have htail : lit " -a snapdesk -t 5000" =
      32 :: (lit "-a" ++ 32 :: (lit "snapdesk" ++ 32 :: (lit "-t" ++ 32 :: (lit "5000" ++ [])))) :=
    rfl
  rw [htail, Shell.fromUnquoted_blank, Shell.fromUnquoted_word (by decide) (by decide),
    Shell.fromUnquoted_blank, Shell.fromUnquoted_word (by decide) (by decide),
    Shell.fromUnquoted_blank, Shell.fromUnquoted_word (by decide) (by decide),
    Shell.fromUnquoted_blank, Shell.fromUnquoted_word (by decide) (by decide),
    Shell.fromUnquoted_nil]
  rfl

/-- **The shell reads the message** exactly if it is verbatim text. -/
theorem words_notifyCommand_iff (message : Str) :
    Shell.words (notifyCommand message) = some (notifyWords message) ↔
      Shell.Verbatim message = true := by
  rw [words_notifyCommand]
  constructor
  · intro h
    obtain ⟨ws, hws, hcons⟩ := Option.map_eq_some_iff.mp h
    obtain rfl : ws = [message, lit "-a", lit "snapdesk", lit "-t", lit "5000"] :=
      (List.cons.inj hcons).2
    by_contra hverbatim
    have hlen := Shell.fromDouble_not_verbatim (Bool.eq_false_iff.mpr hverbatim) hws
    have htext : Shell.textLength [message, lit "-a", lit "snapdesk", lit "-t", lit "5000"] =
        message.length + 1 + 20 := rfl
    have htail : (lit " -a snapdesk -t 5000").length = 20 := rfl
    rw [htext, htail, List.length_nil] at hlen
    omega
  · intro h
    rw [Shell.fromDouble_verbatim h, List.nil_append, words_after]
    rfl

end Communicator

theorem verbatim_append {plain : Str}
    (h : ∀ c ∈ plain, c ≠ 34 ∧ c ≠ 36 ∧ c ≠ 96 ∧ c ≠ 92) (text : Str) :
    Shell.Verbatim (plain ++ text) = Shell.Verbatim text := by
  induction plain with
  | nil => rfl
  | cons c plain ih =>
    obtain ⟨h34, h36, h96, h92⟩ := h c List.mem_cons_self
    rw [List.cons_append, Shell.Verbatim, if_neg (by simp [h34, h36, h96]), if_neg (by simp [h92]),
      ih fun d hd => h d (List.mem_cons_of_mem c hd)]

theorem verbatim_newApMessage (ssid : Str) :
    Shell.Verbatim (newApMessage ssid) = Shell.Verbatim ssid :=
  verbatim_append (by decide) ssid

/-- The C string that `system` is given is the whole command line. -/
theorem cStr_notifyCommand {ssid : Str} (h : 0 ∉ ssid) :
    cStr (Communicator.notifyCommand (newApMessage ssid)) =
      Communicator.notifyCommand (newApMessage ssid) := by
  refine cStr_eq_self ?_
  have hstart : 0 ∉ lit "notify-send \"" := by decide
  have hmessage : 0 ∉ lit "A new AP as been detected on SSID: " := by decide
  have hend : 0 ∉ lit "\" -a snapdesk -t 5000" := by decide
  simp [Communicator.notifyCommand, newApMessage, h, hstart, hmessage, hend]

/-- **The command of a notification** is the one that is meant exactly if the SSID,
without its zero bytes, has no `"`, `$` or backquote and no backslash before a
backslash, a newline or its end. -/
theorem notify_words_iff (value : List UInt8) (w : World) :
    ∃ ssid command, (ofVector value).charString = .ok ssid ∧
      (Communicator.notify (newApMessage ssid)).run w =
        .ok () { w with commands := w.commands ++ [command] } ∧
      (Shell.words command = some (Communicator.notifyWords (newApMessage ssid)) ↔
        Shell.Verbatim (value.filter (· ≠ 0)) = true) := by
  refine ⟨value.filter (· ≠ 0), _, charString_eq rfl, rfl, ?_⟩
  rw [cStr_notifyCommand (by simp), Communicator.words_notifyCommand_iff, verbatim_newApMessage]

/-- The name of a network that ends the message and starts a program. -/
def programSsid : Str := lit "\";reboot;\""

/-- The command line of its notification is not the one that is meant. -/
theorem notify_words_program :
    ∃ ssid command, (ofVector programSsid).charString = .ok ssid ∧
      (∀ w : World, (Communicator.notify (newApMessage ssid)).run w =
        .ok () { w with commands := w.commands ++ [command] }) ∧
      Shell.words command ≠ some (Communicator.notifyWords (newApMessage ssid)) := by
  refine ⟨programSsid, _, charString_eq rfl, fun w => rfl, fun h => ?_⟩
  rw [cStr_notifyCommand (by decide), Communicator.words_notifyCommand_iff,
    verbatim_newApMessage] at h
  exact absurd h (by decide)

end SnapDesk
