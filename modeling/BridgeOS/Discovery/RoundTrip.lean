import BridgeOS.Discovery.Beacon
import BridgeOS.Lib.Boundary

/-! # A beacon there and back

What becomes of a message on its way through a datagram, and that no datagram makes
the decoder panic. A call that panics has no result.
-/

namespace BridgeOS.Discovery

section Names

theorem nameEnd_eq (name : List Char) (limit : Nat) :
    nameEnd name limit =
      Nat.findGreatest (fun position => Text.isCharBoundary name position = true) limit :=
  Text.eq_last_of_steps rfl (fun _ => rfl) limit

theorem truncateName_eq (name : String) :
    truncateName name = String.ofList (Text.cut name.toList maxDeviceNameLen) := by
  rw [truncateName]
  split
  · rw [nameEnd_eq, Text.cut]
  · rename_i fits
    rw [Text.length_utf8] at fits
    rw [Text.cut_of_fits (Nat.le_of_not_lt fits), String.ofList_toList]

/-- A name that is too long loses its end, and at most three bytes more than it has to. -/
def Shortened (name short : String) : Prop :=
  Text.LongestPrefix 64 name short ∧ (short ≠ name → 61 ≤ (utf8 short).length)

theorem shortened_truncateName (name : String) : Shortened name (truncateName name) := by
  rw [truncateName_eq]
  refine ⟨Text.longestPrefix_cut 64 name, fun shorter => ?_⟩
  have long := Text.le_length_cut shorter
  rw [maxDeviceNameLen] at long ⊢
  omega

end Names

section Panics

/-- `&bytes[start..stop]`. -/
def sliceRange (bytes : Bytes) (start stop : Nat) : Option Bytes :=
  if start ≤ stop ∧ stop ≤ bytes.length then some ((bytes.drop start).take (stop - start)) else none

/-- `&bytes[start..]`. -/
def sliceFrom (bytes : Bytes) (start : Nat) : Option Bytes :=
  if start ≤ bytes.length then some (bytes.drop start) else none

/-- `String::truncate` asserts that it cuts at a character boundary. -/
def truncateAt (text : String) (length : Nat) : Option String :=
  if length ≤ (utf8 text).length then
    if Text.isCharBoundary text.toList length then some (String.ofList (Text.truncate text.toList length))
    else none
  else some text

/-- The loop stops at 0, so its counter does not underflow. -/
def truncateNameChecked (name : String) : Option String :=
  if (utf8 name).length > maxDeviceNameLen then truncateAt name (nameEnd name.toList maxDeviceNameLen)
  else some name

def sanitizeChecked : BeaconMessage → Option (Except DiscoveryError BeaconMessage)
  | .announcement version nodeId deviceName deviceType port capabilities seq =>
      if port = 0 then some (.error (.invalidPacket "announcement port cannot be 0"))
      else (truncateNameChecked deviceName).map fun short =>
        .ok (.announcement version nodeId short deviceType port capabilities seq)
  | message => some (.ok message)

/-- `decode_beacon` with its slices and indices as they may fail. -/
def decodeBeaconChecked (bytes : Bytes) : Option (Except DiscoveryError BeaconMessage) :=
  if bytes.length < 5 then
    some (.error (.invalidPacket s!"datagram length {bytes.length} is too short for a valid beacon"))
  else if bytes.length > maxBeaconSize then
    some (.error
      (.invalidPacket s!"datagram length {bytes.length} exceeds maximum allowed {maxBeaconSize}"))
  else
    (sliceRange bytes 0 4).bind fun magic =>
      if magic ≠ beaconMagic then
        some (.error (.invalidPacket s!"invalid magic header {magic}, expected {beaconMagic}"))
      else
        (bytes[4]?).bind fun version =>
          if version ≠ beaconVersion then
            some (.error
              (.invalidPacket s!"unsupported beacon version {version}, expected {beaconVersion}"))
          else
            (sliceFrom bytes 5).bind fun payload =>
              match BeaconMessage.codec.decode payload with
              | none => some (.error (.invalidPacket "failed to deserialize beacon"))
              | some (message, _) => sanitizeChecked message

theorem truncateNameChecked_eq (name : String) : truncateNameChecked name = some (truncateName name) := by
  rw [truncateNameChecked, truncateName]
  split
  · rename_i long
    have found : Text.isCharBoundary name.toList (nameEnd name.toList maxDeviceNameLen) = true := by
      rw [nameEnd_eq]
      exact Text.isCharBoundary_last name.toList maxDeviceNameLen
    have inside : nameEnd name.toList maxDeviceNameLen ≤ (utf8 name).length := by
      rw [nameEnd_eq]
      exact (Nat.findGreatest_le _).trans (Nat.le_of_lt long)
    rw [truncateAt, if_pos inside, if_pos found]
  · rfl

theorem sanitizeChecked_eq (message : BeaconMessage) : sanitizeChecked message = some (sanitize message) := by
  cases message with
  | announcement version nodeId deviceName deviceType port capabilities seq =>
      rw [sanitizeChecked, sanitize, truncateNameChecked_eq]
      split
      · rfl
      · rfl
  | goodbye => rfl
  | query => rfl

theorem decodeBeaconChecked_eq (bytes : Bytes) : decodeBeaconChecked bytes = some (decodeBeacon bytes) := by
  rw [decodeBeaconChecked, decodeBeacon]
  split
  · rfl
  · rename_i long
    have five : 5 ≤ bytes.length := Nat.le_of_not_lt long
    have magic : sliceRange bytes 0 4 = some (bytes.take 4) := if_pos ⟨Nat.zero_le 4, by omega⟩
    have version : bytes[4]? = some (bytes.getD 4 0) := by
      rw [List.getD_eq_getElem?_getD, List.getElem?_eq_getElem (by omega)]
      rfl
    have payload : sliceFrom bytes 5 = some (bytes.drop 5) := if_pos five
    split
    · rfl
    · rw [magic, Option.bind_some]
      split
      · rfl
      · rw [version, Option.bind_some]
        split
        · rfl
        · rw [payload, Option.bind_some]
          cases BeaconMessage.codec.decode (bytes.drop 5) with
          | none => rfl
          | some found => exact sanitizeChecked_eq found.1

end Panics

section RoundTrip

def datagram (message : BeaconMessage) : Bytes :=
  beaconMagic ++ [beaconVersion] ++ BeaconMessage.codec.encode message

namespace BeaconMessage

def announcedPort : BeaconMessage → Option UInt16
  | .announcement _ _ _ _ port _ _ => some port
  | .goodbye .. => none
  | .query .. => none

/-- The same message, but for the end of a long name. -/
def Sanitized : BeaconMessage → BeaconMessage → Prop
  | .announcement version nodeId deviceName deviceType port capabilities seq, received =>
      ∃ short, Shortened deviceName short ∧
        received = .announcement version nodeId short deviceType port capabilities seq
  | .goodbye nodeId seq, received => received = .goodbye nodeId seq
  | .query senderId seq, received => received = .query senderId seq

end BeaconMessage

theorem encodeBeacon_eq_ok (message : BeaconMessage) (bytes : Bytes) :
    encodeBeacon message = .ok bytes ↔
      (datagram message).length ≤ maxBeaconSize ∧ bytes = datagram message := by
  have size : (datagram message).length = 4 + 1 + (BeaconMessage.codec.encode message).length := by
    simp [datagram, beaconMagic]
    omega
  rw [encodeBeacon, size]
  split
  · rename_i long
    refine iff_of_false ?_ fun fits => absurd fits.1 (Nat.not_le_of_lt long)
    rintro ⟨⟩
  · rename_i fits
    rw [and_iff_right (Nat.le_of_not_lt fits), Except.ok.injEq, eq_comm]
    rfl

theorem sanitize_eq_error (message : BeaconMessage) :
    (∃ e, sanitize message = .error e) ↔ message.announcedPort = some 0 := by
  cases message with
  | announcement version nodeId deviceName deviceType port capabilities seq =>
      rw [sanitize, BeaconMessage.announcedPort, Option.some.injEq]
      split
      · rename_i zero
        exact iff_of_true ⟨_, rfl⟩ zero
      · rename_i nonzero
        refine iff_of_false ?_ nonzero
        rintro ⟨_, ⟨⟩⟩
  | goodbye => simp [sanitize, BeaconMessage.announcedPort]
  | query => simp [sanitize, BeaconMessage.announcedPort]

theorem sanitized_of_ok {message received : BeaconMessage} (ok : sanitize message = .ok received) :
    message.Sanitized received := by
  cases message with
  | announcement version nodeId deviceName deviceType port capabilities seq =>
      rw [sanitize] at ok
      split at ok
      · cases ok
      · cases ok
        exact ⟨_, shortened_truncateName deviceName, rfl⟩
  | goodbye =>
      cases ok
      rfl
  | query =>
      cases ok
      rfl

/-- A message is sent exactly if its datagram has at most 1400 bytes. What comes back is an
    error exactly for an announcement of port 0, and otherwise the message, its name cut to
    64 bytes. The decoder has a result for every byte string. -/
theorem beacon_round_trip (message : BeaconMessage) :
    ((∃ bytes, encodeBeacon message = .ok bytes) ↔ (datagram message).length ≤ 1400) ∧
    (∀ bytes, encodeBeacon message = .ok bytes →
      ((∃ e, decodeBeacon bytes = .error e) ↔ message.announcedPort = some 0) ∧
      (message.announcedPort ≠ some 0 →
        ∃ received, decodeBeacon bytes = .ok received ∧ message.Sanitized received)) ∧
    ∀ bytes, decodeBeaconChecked bytes = some (decodeBeacon bytes) := by
  refine ⟨?_, fun bytes sent => ?_, decodeBeaconChecked_eq⟩
  · constructor
    · rintro ⟨bytes, sent⟩
      exact ((encodeBeacon_eq_ok message bytes).mp sent).1
    · intro fits
      exact ⟨datagram message, (encodeBeacon_eq_ok message _).mpr ⟨fits, rfl⟩⟩
  · rw [decodeBeacon_encodeBeacon sent]
    refine ⟨sanitize_eq_error message, fun nonzero => ?_⟩
    cases result : sanitize message with
    | error e => exact absurd ((sanitize_eq_error message).mp ⟨e, result⟩) nonzero
    | ok received => exact ⟨received, rfl, sanitized_of_ok result⟩

end RoundTrip

end BridgeOS.Discovery
