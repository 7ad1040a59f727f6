import EdgeNode.Proofs.Node.Preparation
import EdgeNode.Proofs.Pool.Effects
/-!
# What a node is issued

A node is issued tokens, and it has keys that are to last: `server.seed`, `server.jwt`,
`provisioning.jwt` and `nats.nkey`.  Everything else that a node writes is written at a path that
ends in another name, also where a part of the path comes from a configuration.  So is all that it
writes before it starts anything, apart from a seed that is made where nothing is.
-/

namespace EdgeNode

/-- The names of the files that a node is issued or that hold keys that are to last. -/
def issuedNames : List String :=
  ["server.seed", "server.jwt", "provisioning.jwt", "nats.nkey"]

/-! ### Paths that lead elsewhere -/

namespace Path

variable {base text name : String}

/-- A path that leads to no such file, whatever stands where. -/
def LeadsElsewhere (path : String) : Prop :=
  ∃ name, EndsIn path name ∧ name ∉ issuedNames

lemma leadsElsewhere_join (base : String) (hname : IsName name) (hother : name ∉ issuedNames) :
    LeadsElsewhere (join base name) :=
  ⟨name, endsIn_join base hname, hother⟩

/-- Only what stands behind the last slash counts. -/
lemma endsIn_join_of_slash (base : String) {front : List Char}
    (htext : text.toList = front ++ '/' :: name.toList) (hname : IsName name) :
    EndsIn (join base text) name := by
  obtain ⟨front', hjoin⟩ : ∃ front', (join base text).toList = front' ++ '/' :: name.toList := by
    unfold join
    split
    · exact ⟨front, htext⟩
    · split
      · exact ⟨base.toList ++ front, by simp [htext]⟩
      · exact ⟨base.toList ++ '/' :: front, by simp [htext]⟩
  refine ⟨hname.notUp, (live front').map String.ofList, ?_⟩
  rw [steps, hjoin, live_append_slash, hname.live_eq]
  simp

lemma getLast?_json (text : String) : (text ++ ".json").toList.getLast? = some 'n' := by
  simp

lemma isName_json (h : '/' ∉ text.toList) : IsName (text ++ ".json") := by
  have hlast := getLast?_json text
  refine ⟨by simp [h], ?_, ?_⟩
  · have hdot : (text ++ ".json").toList ≠ ['.'] := by
      intro hdot
      rw [hdot] at hlast
      contradiction
    simpa [isIdle] using hdot
  · intro hup
    rw [hup] at hlast
    exact absurd hlast (by decide)

lemma json_notMem_issuedNames (text : String) : text ++ ".json" ∉ issuedNames := by
  intro hmem
  -- none of the names ends in the last letter of a document's
  have hlast := getLast?_json text
  simp only [issuedNames, List.mem_cons, List.not_mem_nil, or_false] at hmem
  rcases hmem with hname | hname | hname | hname <;>
    rw [hname] at hlast <;> exact absurd hlast (by decide)

/-- A document may be named after any text, with slashes or without. -/
lemma leadsElsewhere_json (base text : String) : LeadsElsewhere (join base (text ++ ".json")) := by
  by_cases hslash : '/' ∈ text.toList
  · obtain ⟨last, front, hcut, hlast⟩ :=
      List.eq_append_cons_of_mem (List.mem_reverse.2 hslash)
    have htext : text.toList = front.reverse ++ '/' :: last.reverse := by
      rw [← List.reverse_reverse text.toList, hcut]
      simp
    have hname : IsName (String.ofList last.reverse ++ ".json") :=
      isName_json (by simpa using hlast)
    have hslashed : (text ++ ".json").toList
        = front.reverse ++ '/' :: (String.ofList last.reverse ++ ".json").toList := by
      simp [htext]
    exact ⟨_, endsIn_join_of_slash base hslashed hname, json_notMem_issuedNames _⟩
  · exact ⟨_, endsIn_join base (isName_json hslash), json_notMem_issuedNames _⟩

end Path

lemma Path.leadsElsewhere_chain (dir : String) :
    ∀ name ∈ ["ca.pem", "cert.pem", "key.pem"], Path.LeadsElsewhere (Path.join dir name) := by
  intro name hname
  refine Path.leadsElsewhere_join dir ?_ ?_
  · revert name
    decide
  · revert name
    decide

lemma ReplicationTopology.leadsElsewhere_cursorPath (t : ReplicationTopology)
    (j : ReplicationJob) : Path.LeadsElsewhere (t.cursorPath j) :=
  Path.leadsElsewhere_json _ j.name

namespace RuntimePaths

/-- The files that a node is issued or that hold keys that are to last. -/
def issuedFiles (p : RuntimePaths) : List String :=
  [p.serverSeedFile, p.serverTokenFile, p.provisioningTokenFile, p.userSeedFile]

/-- The paths that follow from a configuration file and a state directory. -/
def Usual (p : RuntimePaths) : Prop :=
  ∃ configFile stateDirectory, p = .ofFiles configFile stateDirectory

variable {p : RuntimePaths} {path : String}

lemma endsIn_of_mem_issuedFiles (h : p.Usual) (hpath : path ∈ p.issuedFiles) :
    ∃ name ∈ issuedNames, Path.EndsIn path name := by
  obtain ⟨configFile, stateDirectory, rfl⟩ := h
  simp only [issuedFiles, ofFiles, List.mem_cons, List.not_mem_nil, or_false] at hpath
  rcases hpath with rfl | rfl | rfl | rfl
  · exact ⟨"server.seed", by decide, Path.endsIn_join _ (by decide)⟩
  · exact ⟨"server.jwt", by decide, Path.endsIn_join _ (by decide)⟩
  · exact ⟨"provisioning.jwt", by decide, Path.endsIn_join _ (by decide)⟩
  · exact ⟨"nats.nkey", by decide, Path.endsIn_join _ (by decide)⟩

namespace Usual

variable (h : p.Usual)

include h

lemma factsFile : Path.LeadsElsewhere p.factsFile := by
  obtain ⟨configFile, stateDirectory, rfl⟩ := h
  dsimp only [ofFiles]
  exact Path.leadsElsewhere_join _ (by decide) (by decide)

lemma credentialsFile : Path.LeadsElsewhere p.credentialsFile := by
  obtain ⟨configFile, stateDirectory, rfl⟩ := h
  dsimp only [ofFiles]
  exact Path.leadsElsewhere_join _ (by decide) (by decide)

lemma statusFile : Path.LeadsElsewhere p.statusFile := by
  obtain ⟨configFile, stateDirectory, rfl⟩ := h
  dsimp only [ofFiles]
  exact Path.leadsElsewhere_join _ (by decide) (by decide)

end Usual

end RuntimePaths

/-! ### What is written before anything is started -/

section Preparing

variable {writes : String → Prop} {p : RuntimePaths}

lemma edits_saveCredentials (hwrites : writes p.credentialsFile) (f : Files) (c : Config) :
    Files.Edits writes f (saveCredentials f c p).2 := by
  unfold saveCredentials
  dsimp only
  split
  · exact .refl
  · split
    · exact .refl
    · split
      · exact .refl
      · next hwrite => exact .single (Files.edit_writeKeyFile hwrites hwrite)

lemma edits_prepareOperational (hwrites : writes p.credentialsFile) (f : Files)
    (s : OperationalSettings) (c : Option Config) :
    Files.Edits writes f (prepareOperational f s p c).2 := by
  have hdirs : Files.Edits writes f (f.createDirectories s.machinesDirectory).1 :=
    f.edits_createDirectories s.machinesDirectory
  unfold prepareOperational
  split
  next ready g hready =>
    have hedits : Files.Edits writes f g := by
      split at hready
      · next g' hdone =>
        rw [hdone] at hdirs
        obtain ⟨-, rfl⟩ := Prod.mk.inj hready
        cases hmode : g'.setMode s.machinesDirectory 0o700 with
        | ok g => exact hdirs.tail (Files.edit_setMode hmode)
        | error e => exact hdirs
      · next hrefused =>
        rw [hrefused] at hdirs
        obtain ⟨-, rfl⟩ := Prod.mk.inj hready
        exact hdirs
    cases c with
    | none => exact hedits
    | some c =>
      have hsaved : Files.Edits writes g (saveCredentials g c p).2 :=
        edits_saveCredentials hwrites g c
      dsimp only
      split <;> next hsave =>
        rw [hsave] at hsaved
        exact hedits.trans hsaved

lemma edits_applyPostActions (hwrites : writes p.credentialsFile) (f : Files)
    (target : ProvisioningTarget) (server : ServerConfig) (c : Option Config) :
    Files.Edits writes f (applyPostActions f target server p c).2 := by
  unfold applyPostActions
  split
  · exact .refl
  · exact edits_prepareOperational hwrites f _ c

lemma edits_materialize (f : Files) (e : Entropy) (p : RuntimePaths) (o : Options)
    (hostName : String) (mode : Mode) (c : Option Config) :
    Files.Edits writes f (ServerConfig.materialize f e p o hostName mode c).2.1 := by
  have hsettings : Files.Edits writes f (provisioningSettings f e p).2.1 := by
    have hseed : Files.Edits writes f (f.ensureUserSeed e p.userSeedFile).2.1 :=
      f.edits_ensureUserSeed e p.userSeedFile
    unfold provisioningSettings
    split
    · split <;> next heq => rwa [heq] at hseed
    · exact .refl
  unfold ServerConfig.materialize
  dsimp only
  split
  · split <;> next heq => rwa [heq] at hsettings
  · split <;> exact .refl

end Preparing

lemma edits_of_prepareBroker {f f' : Files} {e e' : Entropy} {now : Nat}
    {identity dir storage : String} {result : Except Error BrokerConfig}
    (h : BrokerConfig.prepare f e now identity dir storage = (result, f', e')) :
    Files.Edits Path.LeadsElsewhere f f' := by
  have hedits := Files.edits_prepareBroker (Path.leadsElsewhere_chain dir) f e now identity storage
  rwa [h] at hedits

/-- An agent server writes its status where none of these files is. -/
def ServerConfig.WritesElsewhere (c : ServerConfig) : Prop :=
  ∀ s, c.operational? = some s → Path.LeadsElsewhere s.statusFile

lemma ServerConfig.writesElsewhere_of_materialize {f f' : Files} {e e' : Entropy}
    {p : RuntimePaths} {o : Options} {hostName : String} {mode : Mode} {c : Option Config}
    {server : ServerConfig} (hp : p.Usual)
    (h : ServerConfig.materialize f e p o hostName mode c = (.ok server, f', e')) :
    server.WritesElsewhere := by
  intro s hs
  unfold materialize at h
  dsimp only at h
  split at h
  · split at h
    · exact absurd (congrArg Prod.fst h) (by simp)
    · obtain rfl := Except.ok.inj (congrArg Prod.fst h)
      contradiction
  · split at h
    · exact absurd (congrArg Prod.fst h) (by simp)
    · next settings hsettings =>
      obtain rfl := Except.ok.inj (congrArg Prod.fst h)
      obtain rfl := Option.some.inj hs
      unfold operationalSettings at hsettings
      cases hkey : o.signingPublicKey with
      | error e =>
        rw [hkey] at hsettings
        contradiction
      | ok key =>
        rw [hkey] at hsettings
        obtain rfl := Except.ok.inj hsettings
        exact hp.statusFile

namespace Node

variable {n : Node}

lemma edits_prepare (hpaths : n.paths.Usual) (h : Host) (target : ProvisioningTarget)
    (c : Option Config) :
    Files.Edits Path.LeadsElsewhere h.files (n.prepare h target c).2.files := by
  have hselecting : Files.Edits Path.LeadsElsewhere h.files (n.selecting h).files := by
    have hseed : Files.Edits Path.LeadsElsewhere h.files _ :=
      h.files.edits_ensureUserSeed h.entropy n.paths.userSeedFile
    have hfacts := (Facts.affected_save
      { h with
        files := (h.files.ensureUserSeed h.entropy n.paths.userSeedFile).2.1
        entropy := (h.files.ensureUserSeed h.entropy n.paths.userSeedFile).2.2 }
      n.options n.paths).edits
    refine hseed.trans (hfacts.mono ?_)
    rintro path rfl
    exact hpaths.factsFile
  have hserver : Files.Edits Path.LeadsElsewhere (n.selecting h).files _ :=
    edits_materialize (n.selecting h).files (n.selecting h).entropy n.paths n.options
      (n.selecting h).name (n.selected h c) c
  rw [prepare_eq]
  split
  · next heq =>
    rw [heq] at hserver
    exact hselecting.trans hserver
  · next server files entropy heq =>
    rw [heq] at hserver
    have hactions : Files.Edits Path.LeadsElsewhere files _ :=
      edits_applyPostActions hpaths.credentialsFile files target server c
    exact (hselecting.trans hserver).trans hactions

lemma writesElsewhere_of_prepare {h h' : Host} {target : ProvisioningTarget} {c : Option Config}
    {b : Prepared} (hpaths : n.paths.Usual) (hb : n.prepare h target c = (.ok b, h')) :
    b.server.WritesElsewhere := by
  rw [prepare_eq] at hb
  split at hb
  · exact absurd (congrArg Prod.fst hb) (by simp)
  · next hserver =>
    obtain rfl := Except.ok.inj (congrArg Prod.fst hb)
    exact ServerConfig.writesElsewhere_of_materialize hpaths hserver

end Node

end EdgeNode
