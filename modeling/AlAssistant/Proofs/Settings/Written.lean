import AlAssistant.Proofs.Json.WrittenValue
import AlAssistant.Proofs.Settings.Given
import AlAssistant.Proofs.Settings.InForce

/-!
# Settings that a text gives

A text that gives valid settings puts exactly these in force: as the file of a workspace, and sent
by a client on its own or under the key of a wrapping record. It does not matter how the text is
written, what else it holds, and which settings were in force before.
-/
namespace AlAssistant.Settings

open AlAssistant.Json AlAssistant.Server

section InForce
variable {settings : Settings} {members wrapper : Members}

theorem check_of_isValid (h : settings.isValid = true) : check settings = .ok settings :=
  if_pos h

theorem fromUTF8?_toUTF8 (text : String) : String.fromUTF8? text.toUTF8 = some text :=
  dif_pos text.isValidUTF8

/-- A file is loaded as the settings that its text decodes to. -/
theorem load_of_ofText? {text : String} (ht : ofText? text = some settings)
    (hv : settings.isValid = true) {files : Files} {root : FilePath}
    (hf : files.state (root.child fileName) = .file text.toUTF8) (manager : Manager) :
    manager.load files (some root) = (.ok (), ⟨settings, some root⟩) := by
  have hr : ofRoot files (some root) = .ok settings := by
    simp only [ofRoot, hf, ofFile, fromUTF8?_toUTF8, ht]
  rw [Manager.load, hr, Except.bind, check_of_isValid hv]

/-- Settings that a client sends are put in force, and the root stays. -/
theorem notify_of_ofMessage? {payload : Value} (hp : ofMessage? payload = some settings)
    (hv : settings.isValid = true) (state : State) (exchange : Dialogue.Exchange) :
    notify .configurationChanged (configurationParams payload) state exchange =
      ({ state with manager := { state.manager with current := settings } }, exchange) := by
  rw [notify_configurationChanged, hp]
  simp only [Manager.update, check_of_isValid hv]

theorem ofWrapped?_eq_none (hk : members.HasTextKeys) (h : members.Lacks "alHelper") :
    ofWrapped? (.object members) = none := by
  have hm : member? members ("alHelper", .required) = none := by
    rw [member?, h.filter]
    rfl
  simp [ofWrapped?, members?_object hk, hm]

/-- Without the wrapping key, settings are read as they are. -/
theorem ofMessage?_bare (hg : settings.GivenBy members) (hr : settings.InRange)
    (h : members.Lacks "alHelper") : ofMessage? (.object members) = some settings := by
  rw [ofMessage?, ofWrapped?_eq_none hg.keys h, hg.ofValue? hr]
  rfl

theorem ofMessage?_wrapped (hg : settings.GivenBy members) (hr : settings.InRange)
    (hk : wrapper.HasTextKeys) (h : wrapper.Holds "alHelper" (.object members)) :
    ofMessage? (.object wrapper) = some settings := by
  have hw : ofWrapped? (.object wrapper) = some settings := by
    simp [ofWrapped?, members?_object hk, h.member?, required?, hg.ofValue? hr]
  rw [ofMessage?, hw]
  rfl

end InForce

/-- The settings that a text gives are in force after it is loaded from a file or received from a
client, bare or wrapped. -/
theorem given_settings_come_into_force {settings : Settings} {members : Members} {text : String}
    (hv : settings.isValid = true) (hr : settings.InRange) (hg : settings.GivenBy members)
    (hw : Writes text.toList (.object members)) :
    (∀ (files : Files) (root : FilePath) (manager : Manager),
      files.state (root.child fileName) = .file text.toUTF8 →
        manager.load files (some root) = (.ok (), ⟨settings, some root⟩)) ∧
      Value.ofText? text = some (.object members) ∧
      ∀ (state : State) (exchange : Dialogue.Exchange),
        (members.Lacks "alHelper" →
          notify .configurationChanged (configurationParams (.object members)) state exchange =
            ({ state with manager := { state.manager with current := settings } }, exchange)) ∧
        ∀ wrapper : Members, wrapper.HasTextKeys → wrapper.Holds "alHelper" (.object members) →
          notify .configurationChanged (configurationParams (.object wrapper)) state exchange =
            ({ state with manager := { state.manager with current := settings } }, exchange) := by
  have ht := ofText?_of_writes hw
  refine ⟨fun files root manager hf => ?_, ht, fun state exchange => ⟨fun hl => ?_, ?_⟩⟩
  · have hs : ofText? text = some settings := by
      rw [Settings.ofText?, ht, Option.bind_some, hg.ofValue? hr]
    exact load_of_ofText? hs hv hf manager
  · exact notify_of_ofMessage? (ofMessage?_bare hg hr hl) hv state exchange
  · intro wrapper hk hh
    exact notify_of_ofMessage? (ofMessage?_wrapped hg hr hk hh) hv state exchange

section Danish

def danishTranslationText : String :=
  "\x7b\"hover\": true,\"targetLanguage\":\"\\u0044anish\"\x7d"

/-- A language with an escape in it, and an unknown member before it. -/
def danishText : String :=
  "\x7b\"zoom\":-1.50e+3,\"translation\":" ++ danishTranslationText ++ "\x7d"

def danishTranslation : Members :=
  [(some "hover", .bool true), (some "targetLanguage", .text "Danish")]

def danishMembers : Members :=
  [(some "zoom", .decimal "-1.50e+3"), (some "translation", .object danishTranslation)]

def danish : Settings := ⟨{ Translation.default with targetLanguage := "Danish", hover := true }⟩

theorem danish_isValid : danish.isValid = true := by decide +kernel

theorem danish_inRange : danish.InRange where
  maxTranslations := by decide
  productId := by decide
  products := by decide

theorem danish_givenBy : danish.GivenBy danishMembers where
  keys := by decide
  translation := .member ⟨[(some "zoom", .decimal "-1.50e+3")], [], rfl, by decide, by decide⟩
    ⟨danishTranslation, rfl, {
      keys := by decide
      targetLanguage :=
        .member ⟨[(some "hover", .bool true)], [], rfl, by decide, by decide⟩ rfl
      maxTranslations := .leftOut (by decide)
      productId := .leftOut (by decide)
      searchUrl := .leftOut (by decide)
      hover :=
        .member ⟨[], [(some "targetLanguage", .text "Danish")], rfl, by decide, by decide⟩ rfl
      fallbackProducts := .leftOut (by decide) }⟩

/-- A member whose key is written as it is. -/
def plainMember (key : String) (valueText : List Char) (value : Value) : WrittenMember :=
  ⟨'"' :: (key.toList ++ ['"']), some key, valueText, value⟩

theorem hasKey_plainMember {key : String} {valueText : List Char} {value : Value}
    (h : key.toList.all isPlain = true) : (plainMember key valueText value).HasKey :=
  ⟨[], _, [], List.nil_subset _, writesLiteral_plain h, List.nil_subset _, by simp [plainMember]⟩

theorem writes_danishTranslation :
    Writes danishTranslationText.toList (.object danishTranslation) := by
  have hover : Writes " true".toList (.bool true) :=
    @Writes.padded [' '] _ [] _ (by decide) (.bool true) (by decide)
  have hlanguage : Writes "\"\\u0044anish\"".toList (.text "Danish") :=
    have hunits := @writesUnits_plain "anish".toList rfl
    .string (writesLiteral_of_units (.cons (.number (n := 0x44) (by decide)) hunits) (by decide))
  refine @Writes.object
    [plainMember "hover" " true".toList (.bool true),
      plainMember "targetLanguage" "\"\\u0044anish\"".toList (.text "Danish")] (by simp) ?_ ?_
  · simp only [List.forall_mem_cons]
    exact ⟨hasKey_plainMember rfl, hasKey_plainMember rfl, by simp⟩
  · simp only [List.forall_mem_cons]
    exact ⟨hover, hlanguage, by simp⟩

theorem writes_danish : Writes danishText.toList (.object danishMembers) := by
  have hzoom : Writes "-1.50e+3".toList (.decimal "-1.50e+3") :=
    .number (@WritesNumber.decimal ['-'] ['1'] ".50".toList "e+3".toList (by decide)
      ⟨areDigits_iff.1 rfl, by decide⟩
      (.inr ⟨"50".toList, areDigits_iff.1 rfl, rfl⟩)
      (.inr ⟨'e', by decide, ['+'], by decide, ['3'], areDigits_iff.1 rfl, rfl⟩) (by decide))
  refine @Writes.object
    [plainMember "zoom" "-1.50e+3".toList (.decimal "-1.50e+3"),
      plainMember "translation" danishTranslationText.toList (.object danishTranslation)]
    (by simp) ?_ ?_
  · simp only [List.forall_mem_cons]
    exact ⟨hasKey_plainMember rfl, hasKey_plainMember rfl, by simp⟩
  · simp only [List.forall_mem_cons]
    exact ⟨hzoom, writes_danishTranslation, by simp⟩

/-- The unknown member is passed over, and fields that are left out have their defaults. -/
theorem danish_comes_into_force :
    danish.isValid = true ∧ danish.InRange ∧ danish.GivenBy danishMembers ∧
      Writes danishText.toList (.object danishMembers) ∧
      ∀ (complaint : String → String) (root : FilePath) (state : State)
        (exchange : Dialogue.Exchange),
        state.manager.load ⟨fun _ => .file danishText.toUTF8, complaint⟩ (some root) =
            (.ok (), ⟨danish, some root⟩) ∧
          ∀ payload ∈ [Value.object danishMembers, wrap (.object danishMembers)],
            notify .configurationChanged (configurationParams payload) state exchange =
              ({ state with manager := { state.manager with current := danish } }, exchange) := by
  have h :=
    given_settings_come_into_force danish_isValid danish_inRange danish_givenBy writes_danish
  refine ⟨danish_isValid, danish_inRange, danish_givenBy, writes_danish,
    fun _ root state exchange => ⟨h.1 _ root state.manager rfl, fun payload hp => ?_⟩⟩
  obtain ⟨hbare, hwrapped⟩ := h.2.2 state exchange
  rcases List.mem_pair.1 hp with rfl | rfl
  · exact hbare (by decide)
  · exact hwrapped [(some "alHelper", .object danishMembers)] (by decide)
      ⟨[], [], rfl, by decide, by decide⟩

end Danish

end AlAssistant.Settings
