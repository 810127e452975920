import Slipway.Artifact
import Slipway.Proofs.Text.Splitting
import Slipway.Proofs.Text.Stripping

/-
  References to artifacts as texts. Coordinates are read from the texts of three to five parts
  between colons, none of them empty (`MavenCoordinates.exists_parse_iff`), and they are written as
  such a text (`MavenCoordinates.display_eq`), so they are read again as they were
  (`MavenCoordinates.parse_display`). A reference that was read is written behind the scheme of its
  kind and is read again from there (`ArtifactRef.parse_display_eq`). Two slashes at the beginning
  of an image or of a path would be taken for a part of the scheme: only they are lost, and the
  kind is the same again (`ArtifactRef.display_rereads`).
-/

namespace Slipway

namespace MavenCoordinates

variable {m : MavenCoordinates} {s : String} {ps : List String}

/-! ## Parts -/

/-- The parts that coordinates can be written in. The extension and the classifier may be left
    out. -/
inductive IsWritten : List String → MavenCoordinates → Prop
  | short (g a v : String) : IsWritten [g, a, v] ⟨g, a, "jar", none, v⟩
  | typed (g a e v : String) : IsWritten [g, a, e, v] ⟨g, a, e, none, v⟩
  | full (g a e c v : String) : IsWritten [g, a, e, c, v] ⟨g, a, e, some c, v⟩

/-- Parts that can stand between colons: none of them is empty or has a colon of its own. -/
def ArePlain (ps : List String) : Prop := ∀ p ∈ ps, p ≠ "" ∧ ':' ∉ p.toList

theorem exists_isWritten_iff : (∃ m, IsWritten ps m) ↔ 3 ≤ ps.length ∧ ps.length ≤ 5 := by
  constructor
  · rintro ⟨m, hm⟩
    cases hm <;> simp
  · rintro ⟨hmin, hmax⟩
    match ps with
    | [g, a, v] => exact ⟨_, .short g a v⟩
    | [g, a, e, v] => exact ⟨_, .typed g a e v⟩
    | [g, a, e, c, v] => exact ⟨_, .full g a e c v⟩
    | [] | [_] | [_, _] => simp at hmin
    | _ :: _ :: _ :: _ :: _ :: _ :: _ =>
      simp only [List.length_cons] at hmax
      omega

/-- The parts that coordinates are written in, where nothing is left out but the classifier. -/
def parts (m : MavenCoordinates) : List String :=
  [m.group, m.artifact, m.extension] ++ m.classifier.toList ++ [m.version]

theorem isWritten_parts (m : MavenCoordinates) : IsWritten m.parts m := by
  obtain ⟨g, a, e, c, v⟩ := m
  cases c with
  | none => exact .typed g a e v
  | some c => exact .full g a e c v

theorem display_eq (m : MavenCoordinates) : m.display = ":".intercalate m.parts := by
  rw [← String.toList_inj, String.toList_intercalate]
  unfold display parts
  cases m.classifier <;> simp

/-- Writing out what was left out adds no part that could not stand there. -/
theorem IsWritten.arePlain_parts (h : IsWritten ps m) (hps : ArePlain ps) : ArePlain m.parts := by
  intro p hp
  cases h with
  | short g a v =>
    by_cases hjar : p = "jar"
    · subst hjar
      decide
    · exact hps p (by simpa [parts, hjar] using hp)
  | typed g a e v => exact hps p hp
  | full g a e c v => exact hps p hp

/-! ## Reading -/

theorem parse_eq_ok_iff : parse s = .ok m ↔
    ∃ ps, ArePlain ps ∧ IsWritten ps m ∧ s = ":".intercalate ps := by
  constructor
  · intro h
    have hps : ∀ p ∈ Text.split ':' s, ':' ∉ p.toList := fun p hp => Text.notMem_of_mem_split hp
    have hs : ":".intercalate (Text.split ':' s) = s := Text.intercalate_split (by decide) s
    unfold parse at h
    dsimp only at h
    generalize Text.split ':' s = ps at h hps hs
    split at h
    · cases h
    next hfull =>
      refine ⟨ps, fun p hp => ⟨?_, hps p hp⟩, ?_, hs.symm⟩
      · rintro rfl
        exact hfull (List.any_eq_true.2 ⟨"", hp, by simp⟩)
      · split at h <;> cases h
        · exact .short _ _ _
        · exact .typed _ _ _ _
        · exact .full _ _ _ _ _
  · rintro ⟨ps, hps, hm, rfl⟩
    have hsplit : Text.split ':' (":".intercalate ps) = ps := by
      refine Text.split_intercalate (by decide) (fun p hp => (hps p hp).2) ?_
      rintro rfl
      cases hm
    have hfull : ¬ ps.any (· == "") = true := by
      simpa [List.any_eq_true] using fun hp => (hps "" hp).1 rfl
    unfold parse
    dsimp only
    rw [hsplit, if_neg hfull]
    cases hm <;> rfl

theorem exists_parse_iff : (∃ m, parse s = .ok m) ↔
    ∃ ps : List String, 3 ≤ ps.length ∧ ps.length ≤ 5 ∧ ArePlain ps ∧ s = ":".intercalate ps := by
  constructor
  · rintro ⟨m, hm⟩
    obtain ⟨ps, hps, hwritten, hs⟩ := parse_eq_ok_iff.1 hm
    have hlength := exists_isWritten_iff.1 ⟨m, hwritten⟩
    exact ⟨ps, hlength.1, hlength.2, hps, hs⟩
  · rintro ⟨ps, hmin, hmax, hps, hs⟩
    obtain ⟨m, hm⟩ := exists_isWritten_iff.2 ⟨hmin, hmax⟩
    exact ⟨m, parse_eq_ok_iff.2 ⟨ps, hps, hm, hs⟩⟩

theorem parse_display (h : parse s = .ok m) : parse m.display = .ok m := by
  obtain ⟨ps, hps, hm, -⟩ := parse_eq_ok_iff.1 h
  exact parse_eq_ok_iff.2 ⟨m.parts, hm.arePlain_parts hps, isWritten_parts m, display_eq m⟩

/-- Coordinates are written with the end that they were read with. -/
theorem getLast?_display (h : parse s = .ok m) :
    m.display.toList.getLast? = s.toList.getLast? := by
  have hend : ∀ {ps}, IsWritten ps m → ArePlain ps →
      (":".intercalate ps).toList.getLast? = m.version.toList.getLast? := by
    intro ps hm hps
    have hlast : ps.getLast? = some m.version := by cases hm <;> rfl
    exact Text.getLast?_intercalate hlast (hps _ (List.mem_of_getLast? hlast)).1
  obtain ⟨ps, hps, hm, rfl⟩ := parse_eq_ok_iff.1 h
  rw [display_eq, hend (isWritten_parts m) (hm.arePlain_parts hps), hend hm hps]

end MavenCoordinates

namespace ArtifactRef

variable {a : ArtifactRef} {s text name : String} {cs : List Char}

/-! ## Schemes -/

/-- A text without the two slashes that it may begin with. -/
def withoutSlashes (text : String) : String :=
  ((Text.dropStart? ['/', '/'] text.toList).map String.ofList).getD text

theorem withoutSlashes_eq_self_iff :
    withoutSlashes text = text ↔ Text.startsWith "//" text = false := by
  have hstart : Text.startsWith "//" text = (Text.dropStart? ['/', '/'] text.toList).isSome := rfl
  unfold withoutSlashes
  rw [hstart]
  cases hdrop : Text.dropStart? ['/', '/'] text.toList with
  | none => simp
  | some rest =>
    have hlength : text.toList.length = rest.length + 2 := by
      rw [Text.dropStart?_eq_some hdrop]
      simp
    have hne : String.ofList rest ≠ text := by
      rintro rfl
      simp at hlength
    simpa using hne

theorem withoutSlashes_slashes_append (text : String) : withoutSlashes ("//" ++ text) = text := by
  have hdrop : Text.dropStart? ['/', '/'] ("//" ++ text).toList = some text.toList := by
    rw [String.toList_append]
    exact Text.dropStart?_append ['/', '/'] text.toList
  rw [withoutSlashes, hdrop]
  simp

theorem afterScheme?_append (name text : String) :
    afterScheme? name (name ++ ":" ++ text).toList = some (withoutSlashes text) := by
  have hslashes : Text.dropStart? (name ++ "://").toList (name ++ ":" ++ text).toList =
      Text.dropStart? ['/', '/'] text.toList := by
    have hname : (name ++ "://").toList = (name ++ ":").toList ++ ['/', '/'] := by simp
    rw [hname, String.toList_append (s := name ++ ":"), Text.dropStart?_append_append]
  have hcolon : Text.dropStart? (name ++ ":").toList (name ++ ":" ++ text).toList =
      some text.toList := by
    rw [String.toList_append (s := name ++ ":"), Text.dropStart?_append]
  unfold afterScheme? withoutSlashes
  rw [hslashes, hcolon]
  cases Text.dropStart? ['/', '/'] text.toList <;> simp

theorem suffix_of_afterScheme? (h : afterScheme? name cs = some text) : text.toList <:+ cs := by
  unfold afterScheme? at h
  split at h
  next rest hrest =>
    obtain rfl := Option.some.inj h
    exact ⟨_, by rw [String.toList_ofList]; exact (Text.dropStart?_eq_some hrest).symm⟩
  next =>
    obtain ⟨rest, hrest, rfl⟩ := Option.map_eq_some_iff.1 h
    exact ⟨_, by rw [String.toList_ofList]; exact (Text.dropStart?_eq_some hrest).symm⟩

theorem afterScheme?_eq_none (name : String) {c d : Char} (hname : name.toList.head? = some c)
    (hcs : cs.head? = some d) (hne : c ≠ d) : afterScheme? name cs = none := by
  obtain ⟨name', hname'⟩ := List.head?_eq_some_iff.1 hname
  obtain ⟨cs', rfl⟩ := List.head?_eq_some_iff.1 hcs
  simp [afterScheme?, Text.dropStart?, hname', hne]

/-! ## Writing -/

/-- The scheme of references of this kind. -/
def scheme : ArtifactRef → String
  | image _ => "docker"
  | maven _ => "maven"
  | file _ => "file"

/-- What is written behind the scheme. -/
def payload : ArtifactRef → String
  | image reference => reference
  | maven coordinates => "//" ++ coordinates.display
  | file path => path

theorem display_eq (a : ArtifactRef) : a.display = a.scheme ++ ":" ++ a.payload := by
  cases a with
  | maven coordinates =>
    rw [← String.toList_inj]
    simp [display, scheme, payload]
  | _ => rfl

/-! ## Reading -/

/-- The references that a text can be read as: what they hold is the end of the text. -/
inductive IsRead (cs : List Char) : ArtifactRef → Prop
  | image {reference : String} (h : reference.toList <:+ cs) : IsRead cs (.image reference)
  | maven {text : String} {m : MavenCoordinates} (h : text.toList <:+ cs)
      (hm : MavenCoordinates.parse text = .ok m) : IsRead cs (.maven m)
  | file {path : String} (h : path.toList <:+ cs) : IsRead cs (.file path)

theorem isRead_of_parse (h : parse s = .ok a) : IsRead (Text.trim s).toList a := by
  unfold parse at h
  dsimp only at h
  generalize Text.trim s = s' at h ⊢
  by_cases hs : s' = ""
  · rw [if_pos hs] at h
    cases h
  rw [if_neg hs] at h
  cases hdocker : afterScheme? "docker" s'.toList with
  | some reference =>
    simp only [hdocker] at h
    cases h
    exact .image (suffix_of_afterScheme? hdocker)
  | none =>
    simp only [hdocker] at h
    cases hmaven : afterScheme? "maven" s'.toList with
    | some text =>
      simp only [hmaven] at h
      cases hm : MavenCoordinates.parse text with
      | error e => simp [hm, Except.map] at h
      | ok m =>
        simp only [hm, Except.map] at h
        cases h
        exact .maven (suffix_of_afterScheme? hmaven) hm
    | none =>
      simp only [hmaven] at h
      cases h
      cases hfile : afterScheme? "file" s'.toList with
      | some path => exact .file (suffix_of_afterScheme? hfile)
      | none => exact .file List.suffix_rfl

theorem getLast?_payload (h : parse s = .ok a) :
    ∀ c ∈ a.payload.toList.getLast?, Text.isBlank c = false := by
  have hend : ∀ {text : String}, text.toList <:+ (Text.trim s).toList →
      ∀ c ∈ text.toList.getLast?, Text.isBlank c = false := by
    rintro text ⟨start, hstart⟩ c hc
    refine (Text.bare_strip Text.isBlank s.toList).last c ?_
    rw [Text.trim, String.toList_ofList] at hstart
    rw [← hstart, List.getLast?_append, Option.mem_def.1 hc]
    rfl
  cases isRead_of_parse h with
  | image hsuffix => exact hend hsuffix
  | file hsuffix => exact hend hsuffix
  | @maven text m hsuffix hm =>
    have hslashes : Text.Bare Text.isBlank ['/', '/'] :=
      Text.bare_of_all fun c hc => by rcases List.mem_pair.1 hc with rfl | rfl <;> decide
    have hlast : ∀ c ∈ m.display.toList.getLast?, Text.isBlank c = false := by
      rw [MavenCoordinates.getLast?_display hm]
      exact hend hsuffix
    rw [payload, String.toList_append]
    exact (hslashes.append (by simp) hlast).last

theorem bare_scheme (a : ArtifactRef) : Text.Bare Text.isBlank (a.scheme ++ ":").toList := by
  cases a with
  | image reference => exact ⟨by simp [scheme]; decide, by simp [scheme]; decide⟩
  | maven m => exact ⟨by simp [scheme]; decide, by simp [scheme]; decide⟩
  | file path => exact ⟨by simp [scheme]; decide, by simp [scheme]; decide⟩

/-- A reference is written without blanks at its ends. -/
theorem trim_display (h : parse s = .ok a) : Text.trim a.display = a.display := by
  rw [Text.trim_eq_self_iff, display_eq, String.toList_append]
  exact (bare_scheme a).append (by simp) (getLast?_payload h)

/-- References of one kind. -/
inductive SameKind : ArtifactRef → ArtifactRef → Prop
  | image (reference reference' : String) : SameKind (.image reference) (.image reference')
  | maven (m m' : MavenCoordinates) : SameKind (.maven m) (.maven m')
  | file (path path' : String) : SameKind (.file path) (.file path')

/-- The reference without the slashes at the beginning of its image or path. -/
def reread : ArtifactRef → ArtifactRef
  | image reference => .image (withoutSlashes reference)
  | maven coordinates => .maven coordinates
  | file path => .file (withoutSlashes path)

theorem sameKind_reread (a : ArtifactRef) : SameKind a.reread a := by
  cases a with
  | image reference => exact .image _ _
  | maven m => exact .maven _ _
  | file path => exact .file _ _

/-- An image or a path that does not begin with two slashes. -/
def Unslashed : ArtifactRef → Prop
  | image reference => Text.startsWith "//" reference = false
  | maven _ => True
  | file path => Text.startsWith "//" path = false

instance : DecidablePred Unslashed
  | image reference => inferInstanceAs (Decidable (Text.startsWith "//" reference = false))
  | maven _ => inferInstanceAs (Decidable True)
  | file path => inferInstanceAs (Decidable (Text.startsWith "//" path = false))

theorem reread_eq_self (h : a.Unslashed) : a.reread = a := by
  cases a with
  | image reference => exact congrArg image (withoutSlashes_eq_self_iff.2 h)
  | maven m => rfl
  | file path => exact congrArg file (withoutSlashes_eq_self_iff.2 h)

theorem afterScheme?_display (a : ArtifactRef) :
    afterScheme? a.scheme a.display.toList = some (withoutSlashes a.payload) := by
  rw [display_eq]
  exact afterScheme?_append a.scheme a.payload

theorem parse_display_eq (h : parse s = .ok a) : parse a.display = .ok a.reread := by
  have htrim := trim_display h
  have hne : a.display ≠ "" := by
    rw [display_eq, ← String.toList_inj.ne]
    simp
  have hscheme := afterScheme?_display a
  unfold parse
  dsimp only
  rw [htrim, if_neg hne]
  cases isRead_of_parse h with
  | @image reference hsuffix =>
    have hdocker : afterScheme? "docker" (image reference).display.toList =
        some (withoutSlashes reference) := hscheme
    rw [hdocker]
    rfl
  | @file path hsuffix =>
    have hhead : (file path).display.toList.head? = some 'f' := by
      simp [display]
    have hdocker := afterScheme?_eq_none "docker" (by rfl) hhead (by decide)
    have hmaven := afterScheme?_eq_none "maven" (by rfl) hhead (by decide)
    have hfile : afterScheme? "file" (file path).display.toList = some (withoutSlashes path) :=
      hscheme
    simp only [hdocker, hmaven, hfile]
    rfl
  | @maven text m hsuffix hm =>
    have hhead : (maven m).display.toList.head? = some 'm' := by
      simp [display]
    have hdocker := afterScheme?_eq_none "docker" (by rfl) hhead (by decide)
    have hmaven : afterScheme? "maven" (maven m).display.toList = some m.display :=
      hscheme.trans (by rw [payload, withoutSlashes_slashes_append])
    simp only [hdocker, hmaven, MavenCoordinates.parse_display hm]
    rfl

/-- What is read again is displayed as before exactly if no slashes were lost. -/
theorem display_reread_eq_iff : a.reread.display = a.display ↔ a.Unslashed := by
  have hpayload : a.reread.display = a.display ↔ a.reread.payload = a.payload := by
    cases a <;> simp [reread, display_eq, scheme]
  rw [hpayload]
  cases a with
  | image reference => exact withoutSlashes_eq_self_iff
  | maven m => exact iff_of_true rfl trivial
  | file path => exact withoutSlashes_eq_self_iff

/-- Coordinates are read from the texts of three to five full parts, and are read again from what
    they are displayed as. So is every reference that was read, unless two slashes begin its image
    or its path, and it never changes its kind. Where two slashes do, the text that is displayed is
    another one afterwards. -/
theorem display_rereads :
    (∀ s, (∃ m, MavenCoordinates.parse s = .ok m) ↔
      ∃ ps : List String, 3 ≤ ps.length ∧ ps.length ≤ 5 ∧ MavenCoordinates.ArePlain ps ∧
        s = ":".intercalate ps) ∧
    (∀ s m, MavenCoordinates.parse s = .ok m → MavenCoordinates.parse m.display = .ok m) ∧
    ∀ s a, parse s = .ok a →
      ∃ b, parse a.display = .ok b ∧ SameKind b a ∧ (a.Unslashed → b = a) ∧
        (b.display = a.display ↔ a.Unslashed) := by
  refine ⟨fun s => MavenCoordinates.exists_parse_iff, fun s m => MavenCoordinates.parse_display,
    fun s a h => ?_⟩
  exact ⟨a.reread, parse_display_eq h, sameKind_reread a, reread_eq_self, display_reread_eq_iff⟩

/-- Coordinates without an extension, an image behind a scheme within a scheme, and a path that
    loses its slashes. -/
theorem display_rereads_nested :
    MavenCoordinates.parse "io.acme:ticker:1.2.0" =
      .ok ⟨"io.acme", "ticker", "jar", none, "1.2.0"⟩ ∧
    MavenCoordinates.parse (MavenCoordinates.display ⟨"io.acme", "ticker", "jar", none, "1.2.0"⟩) =
      .ok ⟨"io.acme", "ticker", "jar", none, "1.2.0"⟩ ∧
    parse "\t docker://maven:docker:ticker\n" = .ok (.image "maven:docker:ticker") ∧
    parse (display (.image "maven:docker:ticker")) = .ok (.image "maven:docker:ticker") ∧
    ∃ b, parse (display (.file "//tmp")) = .ok b ∧ SameKind b (.file "//tmp") ∧
      b.display ≠ display (.file "//tmp") := by
  have hcoordinates : MavenCoordinates.parse "io.acme:ticker:1.2.0" =
      .ok ⟨"io.acme", "ticker", "jar", none, "1.2.0"⟩ := by decide +kernel
  have hnested : parse "\t docker://maven:docker:ticker\n" =
      .ok (.image "maven:docker:ticker") := by decide +kernel
  have hpath : parse "//tmp" = .ok (.file "//tmp") := by decide +kernel
  obtain ⟨b, hb, -, hself, -⟩ := display_rereads.2.2 _ _ hnested
  obtain rfl := hself (by decide +kernel)
  obtain ⟨b', hb', hkind', -, htext'⟩ := display_rereads.2.2 _ _ hpath
  have hslashes : ¬ (file "//tmp").Unslashed := by decide +kernel
  exact ⟨hcoordinates, display_rereads.2.1 _ _ hcoordinates, hnested, hb, b', hb', hkind',
    mt htext'.1 hslashes⟩

end ArtifactRef

end Slipway
