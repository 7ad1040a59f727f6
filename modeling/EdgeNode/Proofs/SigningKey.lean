import EdgeNode.ModeSelection
import EdgeNode.Proofs.Encoding.Hex
/-!
# The signing key of the options

Options are accepted just when their signing key is made of sixty-four hexadecimal digits, and the
settings of a provisioned node have that key in lower case.  It spells the same bytes as the key of
the options, so the node trusts the signer that it was given.
-/

namespace EdgeNode

namespace Options

open Encoding

variable {o : Options} {key : Bytes}

/-! ### Bytes of the key -/

/-- The key has a value just when digits spell one of the right length. -/
lemma signingPublicKey_eq_ok_iff : o.signingPublicKey = .ok key ↔
    Hex.Spells o.signingKey.toList key ∧ key.length = signingKeyLength := by
  unfold signingPublicKey
  constructor
  · intro h
    split at h
    · contradiction
    · split at h
      · contradiction
      · next bytes hdecode =>
        split at h
        · next hlength =>
          obtain rfl := Except.ok.inj h
          exact ⟨Hex.decode_eq_ok_iff.1 hdecode, hlength⟩
        · contradiction
  · rintro ⟨hspells, hlength⟩
    -- an empty key spells no byte at all
    have hsome : ¬ o.signingKey.isEmpty := by
      intro hempty
      rw [String.isEmpty_iff.1 hempty] at hspells
      have hnone := hspells.length_eq
      rw [hlength] at hnone
      contradiction
    rw [if_neg hsome, Hex.decode_eq_ok_iff.2 hspells]
    show (if key.length = signingKeyLength then _ else _) = _
    rw [if_pos hlength]

/-- Two digits for each byte, and nothing else. -/
lemma exists_signingPublicKey_iff : (∃ key, o.signingPublicKey = .ok key) ↔
    o.signingKey.toList.length = 64 ∧ ∀ c ∈ o.signingKey.toList, Hex.IsDigit c := by
  simp only [signingPublicKey_eq_ok_iff]
  constructor
  · rintro ⟨key, hspells, hlength⟩
    refine ⟨?_, hspells.isDigit⟩
    rw [hspells.length_eq, hlength]
    rfl
  · rintro ⟨hlength, hdigits⟩
    obtain ⟨key, hspells⟩ := Hex.exists_spells (k := 32) hlength hdigits
    refine ⟨key, hspells, ?_⟩
    have htwice := hspells.length_eq
    unfold signingKeyLength
    omega

/-! ### Validation -/

lemma signingPublicKey_fillDefaults (o : Options) :
    o.fillDefaults.signingPublicKey = o.signingPublicKey := rfl

/-- Settings that call for no default are left as they are. -/
lemma fillDefaults_of_filled (hname : ¬ o.name.isEmpty) (hversion : ¬ o.version.isEmpty)
    (hrefresh : ¬ o.factsRefreshInterval.nanos < minFactsRefresh.nanos) : o.fillDefaults = o := by
  unfold fillDefaults
  rw [if_neg hname, if_neg hversion, if_neg hrefresh]

/-- Defaults call for no default. -/
lemma fillDefaults_fillDefaults (o : Options) : o.fillDefaults.fillDefaults = o.fillDefaults := by
  refine fillDefaults_of_filled ?_ ?_ ?_
  · show ¬ (if o.name.isEmpty then "machine-room" else o.name).isEmpty
    split
    · decide
    · assumption
  · show ¬ (if o.version.isEmpty then "development" else o.version).isEmpty
    split
    · decide
    · assumption
  · show ¬ (if o.factsRefreshInterval.nanos < minFactsRefresh.nanos then defaultFactsRefresh
      else o.factsRefreshInterval).nanos < minFactsRefresh.nanos
    split
    · decide
    · assumption

lemma validate_fst (o : Options) : o.validate.1 = o.signingPublicKey.map fun _ => () := by
  rw [← signingPublicKey_fillDefaults]
  rfl

lemma validate_snd (o : Options) : o.validate.2 = o.fillDefaults := rfl

lemma validate_ok_iff : o.validate.1 = .ok () ↔ ∃ key, o.signingPublicKey = .ok key := by
  rw [validate_fst]
  cases o.signingPublicKey with
  | error e => simp [Except.map]
  | ok key => simp [Except.map]

/-- Options that were validated are left as they are, and judged the same again. -/
lemma validate_validate (o : Options) : o.validate.2.validate = o.validate := by
  rw [validate_snd, validate, fillDefaults_fillDefaults]
  rfl

/-! ### The settings of a provisioned node -/

/-- With a key that has a value a provisioned node has its configuration, whatever files there are.
Nothing is read or written for it. -/
lemma materialize_operational (hkey : o.signingPublicKey = .ok key) (f : Files) (e : Entropy)
    (p : RuntimePaths) (hostName : String) (c : Option Config) :
    ∃ config settings,
      ServerConfig.materialize f e p o hostName .operational c = (.ok config, f, e) ∧
      config.operational? = some settings ∧ settings.signerKey = Hex.encode key := by
  have hsettings : ∃ settings, operationalSettings p o = .ok settings ∧
      settings.signerKey = Hex.encode key := by
    rw [operationalSettings, hkey]
    exact ⟨_, rfl, rfl⟩
  obtain ⟨settings, hoperational, hsigner⟩ := hsettings
  have hconfig : ∃ config, config.operational? = some settings ∧
      ServerConfig.materialize f e p o hostName .operational c = (.ok config, f, e) := by
    simp only [ServerConfig.materialize, hoperational]
    exact ⟨_, rfl, rfl⟩
  obtain ⟨config, hsettings, hmaterialized⟩ := hconfig
  exact ⟨config, settings, hmaterialized, hsettings, hsigner⟩

/-- **The signing key gets from the options to the settings.**  Options are accepted just when
their key is sixty-four hexadecimal digits, and accepting them again changes nothing.  Once they are
accepted, a provisioned node has its configuration, whatever its paths and its configuration file:
its signer is the key in lower case, which spells the bytes that the options have as their key. -/
theorem signing_key_kept (o : Options) :
    (o.validate.1 = .ok () ↔
      o.signingKey.toList.length = 64 ∧ ∀ c ∈ o.signingKey.toList, Hex.IsDigit c) ∧
    o.validate.2.validate = o.validate ∧
    (o.validate.1 = .ok () → ∃ key, o.validate.2.signingPublicKey = .ok key ∧
      key.length = signingKeyLength ∧
      ∀ f e p hostName c, ∃ config settings,
        ServerConfig.materialize f e p o.validate.2 hostName .operational c = (.ok config, f, e) ∧
        config.operational? = some settings ∧ settings.signerKey = o.signingKey.toLower ∧
        Hex.decode settings.signerKey = .ok key) := by
  refine ⟨validate_ok_iff.trans exists_signingPublicKey_iff, validate_validate o, fun h => ?_⟩
  obtain ⟨key, hkey⟩ := validate_ok_iff.1 h
  obtain ⟨hspells, hlength⟩ := signingPublicKey_eq_ok_iff.1 hkey
  have hkept : o.validate.2.signingPublicKey = .ok key := by
    rw [validate_snd, signingPublicKey_fillDefaults, hkey]
  refine ⟨key, hkept, hlength, ?_⟩
  intro f e p hostName c
  obtain ⟨config, settings, hconfig, hoperational, hsigner⟩ :=
    materialize_operational hkept f e p hostName c
  refine ⟨config, settings, hconfig, hoperational, ?_, ?_⟩
  · rw [hsigner, Hex.encode_of_decode (Hex.decode_eq_ok_iff.2 hspells)]
  · rw [hsigner, Hex.decode_encode]

/-- Options whose key is written in both cases, and whose name and pace are left to the defaults. -/
def mixedCase : Options where
  name := ""
  signingKey := "B217b9C6A6f8c8cbBBB3b2d1a9b4a7b2c3d4e5F60718293a4b5c6d7e8F901234"
  factsRefreshInterval := .ofSecs 5

/-- Whatever else a node is given, its signer is the key in lower case. -/
theorem signing_key_kept_mixedCase :
    mixedCase.validate.1 = .ok () ∧ ∃ config settings,
      ServerConfig.materialize {} {} (.ofConfigFile "server.conf") mixedCase.validate.2 "n1"
        .operational none = (.ok config, {}, {}) ∧
      config.operational? = some settings ∧ settings.signerKey
        = "b217b9c6a6f8c8cbbbb3b2d1a9b4a7b2c3d4e5f60718293a4b5c6d7e8f901234" := by
  obtain ⟨haccepted, -, hkept⟩ := signing_key_kept mixedCase
  have hvalid : mixedCase.validate.1 = .ok () := by
    rw [haccepted]
    refine ⟨by decide +kernel, ?_⟩
    -- digit after digit: not all characters that there are can be tried
    refine List.forall_iff_forall_mem.1 ?_
    decide +kernel
  obtain ⟨key, -, -, hsettings⟩ := hkept hvalid
  obtain ⟨config, settings, hconfig, hoperational, hsigner, -⟩ := hsettings {} {} _ "n1" none
  refine ⟨hvalid, config, settings, hconfig, hoperational, ?_⟩
  rw [hsigner]
  show String.map Char.toLower mixedCase.signingKey = _
  rw [String.map_eq_internal]
  decide +kernel

end Options

end EdgeNode
