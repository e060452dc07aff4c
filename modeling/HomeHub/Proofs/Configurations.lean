import Mathlib.Data.List.TakeWhile
import Mathlib.Data.Nat.Digits.Defs
import HomeHub.Proofs.HexLaws
import HomeHub.Server.Basic

/-!
What a configuration is good for once it is normalized and validated: a hub starts on it as it
stands, with the key and the serial that its texts spell. A configuration that is refused has the
fault that it is refused for.
-/

namespace HomeHub

/-! ### Blanks around a text -/

namespace Text

/-- The code points with the Unicode property White_Space. -/
def whiteSpace : List Nat :=
  [0x9, 0xA, 0xB, 0xC, 0xD, 0x20, 0x85, 0xA0, 0x1680, 0x2000, 0x2001, 0x2002, 0x2003, 0x2004,
    0x2005, 0x2006, 0x2007, 0x2008, 0x2009, 0x200A, 0x2028, 0x2029, 0x202F, 0x205F, 0x3000]

lemma isBlank_iff {ch : Char} : isBlank ch = true ↔ ch.toNat ∈ whiteSpace := by
  simp only [isBlank, whiteSpace, Bool.or_eq_true, Bool.and_eq_true, decide_eq_true_eq,
    beq_iff_eq, List.mem_cons, List.not_mem_nil, or_false]
  omega

variable {front core back cs : List Char}

lemma dropWhile_blanks (hfront : ∀ ch ∈ front, isBlank ch = true)
    (hcore : ∀ ch ∈ core, isBlank ch = false) : (front ++ core).dropWhile isBlank = core := by
  rw [List.dropWhile_append_of_pos hfront]
  cases core with
  | nil => rfl
  | cons ch core => exact List.dropWhile_cons_of_neg (by simp [hcore ch List.mem_cons_self])

lemma trimChars_pad (hfront : ∀ ch ∈ front, isBlank ch = true)
    (hcore : ∀ ch ∈ core, isBlank ch = false) (hback : ∀ ch ∈ back, isBlank ch = true) :
    trimChars (front ++ core ++ back) = core := by
  have hends : ((core ++ back).reverse.dropWhile isBlank).reverse = core := by
    rw [List.reverse_append, dropWhile_blanks (by simpa using hback) (by simpa using hcore),
      List.reverse_reverse]
  unfold trimChars
  rw [List.append_assoc, List.dropWhile_append_of_pos hfront]
  cases core with
  | nil =>
    -- without a core, the blanks of the far end go with those of the near one
    rw [List.nil_append, List.dropWhile_eq_nil_iff.mpr hback]
    rfl
  | cons ch core =>
    rw [List.cons_append, List.dropWhile_cons_of_neg (by simp [hcore ch List.mem_cons_self])]
    exact hends

lemma exists_pad (cs : List Char) : ∃ front back, cs = front ++ trimChars cs ++ back ∧
    ∀ ch ∈ front ++ back, isBlank ch = true := by
  refine ⟨cs.takeWhile isBlank,
    ((cs.dropWhile isBlank).reverse.takeWhile isBlank).reverse, ?_, ?_⟩
  · rw [trimChars, List.append_assoc, ← List.reverse_append, List.takeWhile_append_dropWhile,
      List.reverse_reverse, List.takeWhile_append_dropWhile]
  · intro ch hch
    rw [List.mem_append, List.mem_reverse] at hch
    exact hch.elim List.mem_takeWhile_imp List.mem_takeWhile_imp

end Text

lemma Bytes.ofDigits_ofNatBE (count n : Nat) :
    Nat.ofDigits 256 ((ofNatBE count n).reverse.map UInt8.toNat) = n % 256 ^ count := by
  induction count generalizing n with
  | zero => exact (Nat.mod_one n).symm
  | succ count ih =>
    have hbyte : (UInt8.ofNat (n % 256)).toNat = n % 256 := by
      rw [UInt8.toNat_ofNat']
      exact Nat.mod_mod n 256
    rw [ofNatBE, List.reverse_append, List.reverse_singleton, List.singleton_append, List.map_cons,
      Nat.ofDigits_cons, hbyte, ih, Nat.pow_succ', Nat.mod_mul]

namespace Config

/-! ### What the texts of a configuration spell -/

/-- Two letters from `A` to `Z`. -/
def IsRegionCode (s : String) : Prop :=
  ∃ a b : Char, s.toList = [a, b] ∧ ('A' ≤ a ∧ a ≤ 'Z') ∧ 'A' ≤ b ∧ b ≤ 'Z'

/-- The digits of these bytes, with nothing but blanks around them. -/
def SpellsKey (text : String) (bytes : Bytes) : Prop :=
  ∃ front digits back, text.toList = front ++ digits ++ back ∧
    (∀ ch ∈ front ++ back, ch.toNat ∈ Text.whiteSpace) ∧ Hex.Spells digits bytes

/-- A cipher that encrypts just if there is a key, and then under the bytes that this spells. -/
structure Keyed (c : Config) (cipher : Cipher) : Prop where
  enabled : cipher.isEnabled = c.key.isSome
  bytes : ∀ text, c.key = some text →
    ∃ key, cipher.key = some key ∧ ∀ bytes, SpellsKey text bytes ↔ bytes = key.bytes

/-- What a configuration has to have. -/
structure Sound (c : Config) : Prop where
  clients : 1 ≤ c.maxClients
  buffer : 75 ≤ c.bufferCapacity
  region : IsRegionCode c.device.region
  serial : ∀ text, c.device.serial = some text → ∃ bytes, Hex.Spells text.toList bytes
  key : ∃ cipher, c.cipher = .ok cipher ∧ Keyed c cipher

/-- What is wrong with a configuration that is refused for this. -/
inductive Faulty (c : Config) : ConfigFault → Prop
  | noClients : c.maxClients = 0 → Faulty c .noClients
  | bufferTooSmall : c.bufferCapacity < 75 → Faulty c .bufferTooSmall
  | badRegion : ¬IsRegionCode c.device.region → Faulty c (.badRegion c.device.region)
  | badSerial {text : String} : c.device.serial = some text →
      (∀ bytes, ¬Hex.Spells text.toList bytes) → Faulty c (.badSerial text)
  | badKey {text : String} {why : CipherFault} : c.key = some text →
      (∀ bytes, bytes.length = 32 → ¬SpellsKey text bytes) → Faulty c (.badKey why)

/-- What a configuration says of the device on a host. -/
structure Describes (c : Config) (host : Option String) (info : DeviceInfo) : Prop where
  region : info.region = c.device.region ∧ IsRegionCode info.region
  even : info.serial.toList.length % 2 = 0
  lower : ∀ ch ∈ info.serial.toList, ch ∈ Hex.lowerDigits
  configured : ∀ text, c.device.serial = some text →
    ∃ bytes, Hex.Spells text.toList bytes ∧ Hex.Spells info.serial.toList bytes
  /-- The digits of the eight bytes of a hash of the name, most significant first. -/
  derived : c.device.serial = none → info.serial.toList.length = 16 ∧
    ∃ bytes : Bytes, bytes.length = 8 ∧ Hex.Spells info.serial.toList bytes ∧
      Nat.ofDigits 256 (bytes.reverse.map UInt8.toNat) =
        (SipHash.hash 0 0 (Utf8.ofString (host.getD "homewire") ++ [0xFF])).toNat

/-- A configuration that a hub can run on as it stands. -/
structure Usable (c : Config) : Prop where
  sound : Sound c
  times : ∀ time ∈ [c.idleTimeoutSecs, c.frameStaleMs, c.tickMs, c.broadcastIntervalMs,
    c.writeIntervalMs, c.lockoutTimeoutMs], time ≠ 0
  info : ∀ serviceType host, Describes c host (c.deviceInfo serviceType host)
  again : c.normalize = c ∧ c.normalize.validate = .ok ()
  starts : ∀ {σ δ : Type} [Service σ] [Flash δ] (p : Server.Parts σ δ) (now : Time),
    p.config = c → ∃ server, Server.start p now = .ok server ∧
      server.connections = Connections.new c.registryConfig ∧
      (p.cipher = none → c.cipher = .ok server.outbox.cipher)

variable {c : Config} {text : String} {bytes : Bytes} {why : ConfigFault}

/-! ### Reading the texts -/

lemma isUpper_iff {ch : Char} : ch.isUpper = true ↔ 'A' ≤ ch ∧ ch ≤ 'Z' := decide_eq_true_iff

lemma isRegion_iff {s : String} : isRegion s = true ↔ IsRegionCode s := by
  unfold isRegion IsRegionCode
  constructor
  · intro h
    split at h
    · rename_i a b hs
      rw [Bool.and_eq_true, isUpper_iff, isUpper_iff] at h
      exact ⟨a, b, hs, h.1, h.2⟩
    · cases h
  · rintro ⟨a, b, hs, ha, hb⟩
    rw [hs]
    exact Bool.and_eq_true_iff.mpr ⟨isUpper_iff.mpr ha, isUpper_iff.mpr hb⟩

lemma spellsKey_iff :
    SpellsKey text bytes ↔ Hex.decode (Utf8.ofString (Text.trim text)) = .ok bytes := by
  rw [Hex.decode_eq_ok_iff, Text.trim, String.toList_ofList]
  constructor
  · rintro ⟨front, digits, back, htext, hblank, hspells⟩
    have hcore (ch : Char) (hch : ch ∈ digits) : Text.isBlank ch = false :=
      (hspells.exists_value hch).elim fun _ => Hex.not_isBlank
    simp only [List.forall_mem_append, ← Text.isBlank_iff] at hblank
    rw [htext, Text.trimChars_pad hblank.1 hcore hblank.2]
    exact hspells
  · intro hspells
    obtain ⟨front, back, htext, hblank⟩ := Text.exists_pad text.toList
    exact ⟨front, _, back, htext, fun ch hch => Text.isBlank_iff.mp (hblank ch hch), hspells⟩

lemma ofHex_eq_ok {cipher : Cipher} (h : Cipher.ofHex text = .ok cipher) :
    ∃ key, cipher.key = some key ∧ ∀ bytes, SpellsKey text bytes ↔ bytes = key.bytes := by
  unfold Cipher.ofHex at h
  split at h
  · cases h
  · rename_i read hread
    split at h
    · rename_i hlength
      cases h
      refine ⟨⟨read, hlength⟩, rfl, fun bytes => ?_⟩
      rw [spellsKey_iff, hread, Except.ok.injEq, eq_comm]
    · cases h

lemma ofHex_eq_error {fault : CipherFault} (h : Cipher.ofHex text = .error fault)
    (hlength : bytes.length = 32) : ¬SpellsKey text bytes := by
  intro hspells
  rw [Cipher.ofHex, spellsKey_iff.mp hspells] at h
  dsimp only at h
  rw [dif_pos (show bytes.length = Cipher.keyLength from hlength)] at h
  cases h

/-! ### Validation -/

lemma keyed_of_cipher {cipher : Cipher} (h : c.cipher = .ok cipher) : Keyed c cipher := by
  unfold Config.cipher at h
  split at h
  · rename_i hkey
    cases h
    exact ⟨by rw [hkey]; rfl, by rw [hkey]; nofun⟩
  · rename_i text hkey
    split at h
    · rename_i found hfound
      cases h
      obtain ⟨key, hcipher, hbytes⟩ := ofHex_eq_ok hfound
      refine ⟨by rw [hkey, Cipher.isEnabled, hcipher]; rfl, fun other hother => ?_⟩
      obtain rfl : text = other := by simpa [hkey] using hother
      exact ⟨key, hcipher, hbytes⟩
    · cases h

lemma faulty_of_cipher (h : c.cipher = .error why) : Faulty c why := by
  unfold Config.cipher at h
  split at h
  · cases h
  · rename_i text hkey
    split at h
    · cases h
    · rename_i fault hfault
      cases h
      exact .badKey hkey fun _ => ofHex_eq_error hfault

lemma spells_of_checkSerial (h : checkSerial c.device.serial = .ok ()) :
    ∀ text, c.device.serial = some text → ∃ bytes, Hex.Spells text.toList bytes := by
  intro text hserial
  rw [hserial, checkSerial] at h
  split at h
  · rename_i bytes hbytes
    exact ⟨bytes, Hex.decode_eq_ok_iff.mp hbytes⟩
  · cases h

lemma faulty_of_checkSerial (h : checkSerial c.device.serial = .error why) : Faulty c why := by
  unfold checkSerial at h
  split at h
  · cases h
  · rename_i text hserial
    split at h
    · cases h
    · rename_i hnone
      cases h
      refine .badSerial hserial fun bytes hspells => ?_
      rw [Hex.decode_eq_ok_iff.mpr hspells] at hnone
      cases hnone

lemma validate_eq (c : Config) : c.validate =
    if c.maxClients = 0 then .error .noClients
    else if c.bufferCapacity < 75 then .error .bufferTooSmall
    else if isRegion c.device.region = false then .error (.badRegion c.device.region)
    else checkSerial c.device.serial >>= fun _ => c.cipher >>= fun _ => .ok () := by
  have hmin : minBufferCapacity = 75 := rfl
  simp only [validate, hmin, Bool.not_eq_true']
  split_ifs <;> rfl

lemma sound_of_validate (h : c.validate = .ok ()) : Sound c := by
  rw [validate_eq] at h
  split_ifs at h with hclients hbuffer hregion
  obtain ⟨⟨⟩, hserial, hcipher⟩ := bind_eq_ok.mp h
  obtain ⟨cipher, hcipher, -⟩ := bind_eq_ok.mp hcipher
  exact
    { clients := Nat.one_le_iff_ne_zero.mpr hclients
      buffer := Nat.le_of_not_lt hbuffer
      region := isRegion_iff.mp (by simpa using hregion)
      serial := spells_of_checkSerial hserial
      key := ⟨cipher, hcipher, keyed_of_cipher hcipher⟩ }

lemma faulty_of_validate (h : c.validate = .error why) : Faulty c why := by
  rw [validate_eq] at h
  split_ifs at h with hclients hbuffer hregion
  · cases h
    exact .noClients hclients
  · cases h
    exact .bufferTooSmall hbuffer
  · cases h
    exact .badRegion fun hcode => by simp [isRegion_iff.mpr hcode] at hregion
  · rcases hserial : checkSerial c.device.serial with fault | ⟨⟩
    · rw [hserial] at h
      cases h
      exact faulty_of_checkSerial hserial
    · rcases hcipher : c.cipher with fault | cipher
      · rw [hserial, hcipher] at h
        cases h
        exact faulty_of_cipher hcipher
      · rw [hserial, hcipher] at h
        cases h

/-! ### Normalization -/

lemma orDefault_ne_zero {value fallback : Nat} (h : fallback ≠ 0) :
    orDefault value fallback ≠ 0 := by
  unfold orDefault
  split_ifs with hzero
  · exact h
  · exact hzero

lemma orDefault_orDefault (value fallback : Nat) :
    orDefault (orDefault value fallback) fallback = orDefault value fallback := by
  by_cases hvalue : value = 0
  · simp only [orDefault, if_pos hvalue, ite_self]
  · simp only [orDefault, if_neg hvalue]

lemma nonBlank_nonBlank (s : Option String) : nonBlank (nonBlank s) = nonBlank s := by
  unfold nonBlank
  rw [Option.filter_filter]
  simp only [Bool.and_self]

lemma isBlankText_region (c : Config) : isBlankText c.normalize.device.region = false := by
  by_cases hblank : isBlankText c.device.region = true
  · simp only [normalize, if_pos hblank]
    decide +kernel
  · simp only [normalize, if_neg hblank]
    exact Bool.eq_false_iff.mpr hblank

lemma normalize_normalize (c : Config) : c.normalize.normalize = c.normalize := by
  have hregion : (if isBlankText c.normalize.device.region = true then defaultRegion
      else c.normalize.device.region) = c.normalize.device.region :=
    if_neg (by rw [isBlankText_region]; exact Bool.false_ne_true)
  rw [normalize, hregion]
  simp only [normalize, orDefault_orDefault, nonBlank_nonBlank]

lemma times_of_normalize (c : Config) : ∀ time ∈ [c.normalize.idleTimeoutSecs,
    c.normalize.frameStaleMs, c.normalize.tickMs, c.normalize.broadcastIntervalMs,
    c.normalize.writeIntervalMs, c.normalize.lockoutTimeoutMs], time ≠ 0 := by
  have hdefaults : ∀ fallback ∈ [default.idleTimeoutSecs, default.frameStaleMs, default.tickMs,
      default.broadcastIntervalMs, default.writeIntervalMs, default.lockoutTimeoutMs],
      fallback ≠ 0 := by decide
  simp only [List.forall_mem_cons, List.not_mem_nil, false_implies, implies_true, and_true]
    at hdefaults ⊢
  obtain ⟨hidle, hstale, htick, hbroadcast, hwrite, hlockout⟩ := hdefaults
  exact ⟨orDefault_ne_zero hidle, orDefault_ne_zero hstale, orDefault_ne_zero htick,
    orDefault_ne_zero hbroadcast, orDefault_ne_zero hwrite, orDefault_ne_zero hlockout⟩

/-! ### Use -/

lemma exists_hostSerial (host : String) : ∃ bytes : Bytes, bytes.length = 8 ∧
    DeviceInfo.hostSerial host = Hex.encode bytes ∧
    Nat.ofDigits 256 (bytes.reverse.map UInt8.toNat) =
      (SipHash.hash 0 0 (Utf8.ofString host ++ [0xFF])).toNat := by
  refine ⟨_, Bytes.length_ofNatBE 8 _, rfl, ?_⟩
  rw [Bytes.ofDigits_ofNatBE]
  exact Nat.mod_eq_of_lt (UInt64.toNat_lt _)

lemma describes_of_sound (h : Sound c) (serviceType : UInt8) (host : Option String) :
    Describes c host (c.deviceInfo serviceType host) := by
  rcases hserial : c.device.serial with _ | text
  · obtain ⟨bytes, hcount, hhost, hvalue⟩ := exists_hostSerial (host.getD "homewire")
    have hinfo : (c.deviceInfo serviceType host).serial = Hex.encode bytes := by
      rw [← hhost]
      simp only [deviceInfo, hserial]
      rfl
    have hspells := Hex.spells_encode bytes
    have hlength : (c.deviceInfo serviceType host).serial.toList.length = 16 := by
      rw [hinfo, hspells.length_even, hcount]
    refine
      { region := ⟨rfl, h.region⟩
        even := by rw [hlength]
        lower := fun ch hch => ?_
        configured := by rw [hserial]; nofun
        derived := fun _ => ⟨hlength, bytes, hcount, hinfo ▸ hspells, hvalue⟩ }
    rw [hinfo] at hch
    exact Hex.mem_lowerDigits_of_encode hch
  · have hinfo : (c.deviceInfo serviceType host).serial.toList = text.toList.map Char.toLower := by
      simp only [deviceInfo, hserial, String.toList_ofList]
    obtain ⟨bytes, hspells⟩ := h.serial text hserial
    refine
      { region := ⟨rfl, h.region⟩
        even := ?_
        lower := fun ch hch => ?_
        configured := fun other hother => ⟨bytes, ?_, ?_⟩
        derived := by rw [hserial]; nofun }
    · rw [hinfo, List.length_map, hspells.length_even, Nat.mul_mod_right]
    · rw [hinfo, List.mem_map] at hch
      obtain ⟨d, hd, rfl⟩ := hch
      exact (hspells.exists_value hd).elim fun _ => Hex.mem_lowerDigits_of_value?
    · obtain rfl : text = other := by simpa [hserial] using hother
      exact hspells
    · rw [hinfo]
      exact hspells.toLower

lemma starts_of_again {σ δ : Type} [Service σ] [Flash δ] {p : Server.Parts σ δ} {cipher : Cipher}
    (now : Time) (hnormal : p.config.normalize = p.config) (hvalid : p.config.validate = .ok ())
    (hcipher : p.config.cipher = .ok cipher) :
    ∃ server, Server.start p now = .ok server ∧
      server.connections = Connections.new p.config.registryConfig ∧
      (p.cipher = none → p.config.cipher = .ok server.outbox.cipher) := by
  obtain ⟨chosen, hchosen, hown⟩ : ∃ chosen, Server.chosenCipher p.config p.cipher = .ok chosen ∧
      (p.cipher = none → p.config.cipher = .ok chosen) := by
    rcases hcase : p.cipher with _ | other
    · exact ⟨cipher, hcipher, fun _ => hcipher⟩
    · exact ⟨other, rfl, nofun⟩
  unfold Server.start
  simp only [hnormal, hvalid, hchosen]
  exact ⟨_, rfl, rfl, hown⟩

/-- **A normalized configuration that validation accepts is good to use as it stands**, and
normalizing it again changes nothing; one that it refuses has the fault that is named. -/
theorem usable_or_faulty (c : Config) :
    c.normalize.normalize = c.normalize ∧
      (c.normalize.validate = .ok () → Usable c.normalize) ∧
      ∀ why, c.normalize.validate = .error why → Faulty c.normalize why := by
  have hnormal := normalize_normalize c
  refine ⟨hnormal, fun hvalid => ?_, fun _ => faulty_of_validate⟩
  have hsound := sound_of_validate hvalid
  obtain ⟨cipher, hcipher, -⟩ := hsound.key
  exact
    { sound := hsound
      times := times_of_normalize c
      info := describes_of_sound hsound
      again := ⟨hnormal, by rw [hnormal, hvalid]⟩
      starts := by
        rintro σ δ _ _ p now hp
        rw [← hp] at hnormal hvalid hcipher ⊢
        exact starts_of_again now hnormal hvalid hcipher }

/-- Zeros and blanks to be replaced, a key in both cases between blanks, a serial in capitals. -/
def padded : Config :=
  { default with
    bufferCapacity := 0
    frameStaleMs := 0
    key := some "\u00a0\t00112233445566778899aAbBcCdDeEfF00112233445566778899AABBCCDDEEFF \u2003"
    device := ⟨" \u2003", some "00C0FFEE", "", false⟩ }

/-- The same with a blank serial, so that there is none. -/
def unnamed : Config := { padded with device := ⟨"GB", some "\u3000", "", false⟩ }

/-- The bytes of the key. -/
def paddedKey : Bytes :=
  [0x00, 0x11, 0x22, 0x33, 0x44, 0x55, 0x66, 0x77, 0x88, 0x99, 0xAA, 0xBB, 0xCC, 0xDD, 0xEE, 0xFF,
    0x00, 0x11, 0x22, 0x33, 0x44, 0x55, 0x66, 0x77, 0x88, 0x99, 0xAA, 0xBB, 0xCC, 0xDD, 0xEE, 0xFF]

/-- The serial is the configured one in lower case, or depends on the host. -/
theorem usable_of_padded :
    padded.normalize.validate = .ok () ∧ Usable padded.normalize ∧
      (padded.normalize.cipher.toOption.bind (·.key)).map (·.bytes) = some paddedKey ∧
      (padded.normalize.deviceInfo 1 none).serial = "00c0ffee" ∧
      unnamed.normalize.validate = .ok () ∧ Usable unnamed.normalize ∧
      unnamed.normalize.device.serial = none ∧
      (unnamed.normalize.deviceInfo 1 none).serial = "eb856ba425296f33" ∧
      (unnamed.normalize.deviceInfo 1 (some "host-1")).serial = "954fe0df44371651" := by
  have hpadded : padded.normalize.validate = .ok () := by decide +kernel
  have hunnamed : unnamed.normalize.validate = .ok () := by decide +kernel
  exact ⟨hpadded, (usable_or_faulty padded).2.1 hpadded, by decide +kernel, by decide +kernel,
    hunnamed, (usable_or_faulty unnamed).2.1 hunnamed, by decide +kernel⟩

end Config

end HomeHub
