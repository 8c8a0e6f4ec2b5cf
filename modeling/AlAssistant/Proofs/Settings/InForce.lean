import AlAssistant.Proofs.Settings.Wrapping

/-!
# Settings in force

What valid settings guarantee, and why only valid settings come into force.
-/
namespace AlAssistant.Settings

/-! ## What valid settings guarantee

Settings without faults collect at least one candidate, search at an address of the web, and have
products to fall back on, each with a label that can be read.
-/

/-- An address that a search can use. -/
def IsSearchAddress (text : String) : Prop :=
  ∃ url, Url.ofText text = .ok url ∧ String.ofList url.scheme ∈ searchSchemes

/-- A label with something to read. -/
def IsReadable (label : String) : Prop := Text.isBlankText label.toList = false

theorem searchUrlFault?_eq_none_iff {url : String} :
    searchUrlFault? url = none ↔ IsSearchAddress url := by
  unfold searchUrlFault? IsSearchAddress
  cases Url.ofText url with
  | error cause => simp
  | ok parsed => simp

theorem labelFaults_eq_nil_iff {index : Nat} {products : List Product} :
    labelFaults index products = [] ↔ ∀ product ∈ products, IsReadable product.label := by
  induction products generalizing index with
  | nil => simp [labelFaults]
  | cons product products ih =>
    rw [labelFaults, List.append_eq_nil_iff, ih, List.forall_mem_cons]
    simp [IsReadable]

theorem isValid_iff {settings : Settings} :
    settings.isValid = true ↔
      settings.translation.maxTranslations ≠ 0 ∧
        IsSearchAddress settings.translation.searchUrl ∧
        settings.translation.fallbackProducts ≠ [] ∧
        ∀ product ∈ settings.translation.fallbackProducts, IsReadable product.label := by
  unfold isValid faults
  rw [List.isEmpty_iff]
  simp only [List.append_eq_nil_iff, labelFaults_eq_nil_iff, Option.toList_eq_nil_iff,
    searchUrlFault?_eq_none_iff, and_assoc]
  simp

/-! ## Settings in force were checked

A call of the manager offers settings: those of a workspace, or those that are handed over. They
are put in force exactly when they are valid, and a call that is refused changes nothing. After
any number of calls the settings in force are therefore valid.
-/

/-- The settings of a workspace: those of its file, or the defaults where there is no file. -/
inductive Provides (files : Files) : Option FilePath → Settings → Prop
  | noRoot : Provides files none default
  | noFile {root : FilePath} :
      files.state (root.child fileName) = .absent → Provides files (some root) default
  | file {root : FilePath} {content : ByteArray} {text : String} {settings : Settings} :
      files.state (root.child fileName) = .file content → String.fromUTF8? content = some text →
        ofText? text = some settings → Provides files (some root) settings

theorem provides_of_ofFile {files : Files} {root : FilePath} {settings : Settings}
    (h : ofFile files.complaint (files.state (root.child fileName)) = .ok settings) :
    Provides files (some root) settings := by
  unfold ofFile at h
  split at h
  · next hf =>
    obtain rfl := Except.ok.inj h
    exact .noFile hf
  · contradiction
  · next content hf =>
    split at h
    · contradiction
    · next text ht =>
      split at h
      · contradiction
      · next read hr =>
        obtain rfl := Except.ok.inj h
        exact .file hf ht hr

theorem ofRoot_eq_ok_iff {files : Files} {root : Option FilePath} {settings : Settings} :
    ofRoot files root = .ok settings ↔ Provides files root settings := by
  constructor
  · intro h
    cases root with
    | none =>
      obtain rfl := Except.ok.inj h
      exact .noRoot
    | some root => exact provides_of_ofFile h
  · intro h
    cases h with
    | noRoot => rfl
    | noFile hf => simp [ofRoot, ofFile, hf]
    | file hf ht hr => simp [ofRoot, ofFile, hf, ht, hr]

/-- A call that changes the settings in force. -/
inductive Call where
  | load (files : Files) (root : Option FilePath)
  | update (settings : Settings)

namespace Call

def run : Call → Manager → Except Rejection Unit × Manager
  | load files root, manager => manager.load files root
  | update settings, manager => manager.update settings

/-- The settings that a call is about. -/
def Offers : Call → Settings → Prop
  | load files root, settings => Provides files root settings
  | update sent, settings => sent = settings

/-- The root that goes with the settings of a call. -/
def root : Call → Manager → Option FilePath
  | load _ root, _ => root
  | update _, manager => manager.root

/-- The settings that a call is about, or why it has none. -/
def offered : Call → Except Rejection Settings
  | load files root => ofRoot files root
  | update settings => .ok settings

theorem offered_eq_ok_iff {call : Call} {settings : Settings} :
    call.offered = .ok settings ↔ call.Offers settings := by
  cases call with
  | load files root => exact ofRoot_eq_ok_iff
  | update sent => simp [offered, Offers]

/-- Both kinds of call check what they are offered before they put it in force. -/
theorem run_eq (call : Call) (manager : Manager) :
    call.run manager =
      match call.offered.bind check with
      | .ok settings => (.ok (), ⟨settings, call.root manager⟩)
      | .error rejection => (.error rejection, manager) := by
  cases call <;> rfl

/-- How a call ends. -/
inductive Ends (call : Call) (manager : Manager) : Except Rejection Unit × Manager → Prop
  | accepted {settings : Settings} : call.Offers settings → settings.isValid = true →
      Ends call manager (.ok (), ⟨settings, call.root manager⟩)
  | refused {rejection : Rejection} :
      (∀ settings, call.Offers settings → settings.isValid = false) →
      Ends call manager (.error rejection, manager)

theorem ends_run (call : Call) (manager : Manager) : call.Ends manager (call.run manager) := by
  rw [run_eq]
  cases ho : call.offered with
  | error rejection =>
    -- settings that could not be read are not offered at all
    refine .refused fun settings h => ?_
    rw [offered_eq_ok_iff.2 h] at ho
    contradiction
  | ok settings =>
    have hs := offered_eq_ok_iff.1 ho
    rw [Except.bind, check]
    cases hv : settings.isValid with
    | true => exact .accepted hs hv
    | false =>
      -- a call offers no other settings than those that were checked
      refine .refused fun other h => ?_
      rw [offered_eq_ok_iff.2 h] at ho
      rwa [Except.ok.inj ho]

variable {call : Call} {manager : Manager}

theorem run_of_error {rejection : Rejection} (h : (call.run manager).1 = .error rejection) :
    (call.run manager).2 = manager := by
  generalize hr : call.run manager = ended at h
  cases hr ▸ ends_run call manager with
  | accepted _ _ => contradiction
  | refused _ => rfl

theorem run_of_ok (h : (call.run manager).1 = .ok ()) :
    call.Offers (call.run manager).2.current ∧
      (call.run manager).2.root = call.root manager := by
  generalize hr : call.run manager = ended at h
  cases hr ▸ ends_run call manager with
  | accepted ho _ => exact ⟨ho, rfl⟩
  | refused _ => contradiction

/-- A call succeeds exactly when it is about valid settings. -/
theorem run_eq_ok_iff :
    (call.run manager).1 = .ok () ↔
      ∃ settings, call.Offers settings ∧ settings.isValid = true := by
  generalize hr : call.run manager = ended
  cases hr ▸ ends_run call manager with
  | accepted ho hv => exact iff_of_true rfl ⟨_, ho, hv⟩
  | refused hn =>
    refine iff_of_false (by simp) ?_
    rintro ⟨settings, ho, hv⟩
    rw [hn settings ho] at hv
    contradiction

/-- What a call puts in force was checked. -/
theorem isValid_run (h : manager.current.isValid = true) :
    (call.run manager).2.current.isValid = true := by
  generalize hr : call.run manager = ended
  cases hr ▸ ends_run call manager with
  | accepted _ hv => exact hv
  | refused _ => exact h

end Call

namespace Manager

/-- The manager after calls in a row. -/
def after (manager : Manager) (calls : List Call) : Manager :=
  calls.foldl (fun manager call => (call.run manager).2) manager

theorem after_append (manager : Manager) (calls more : List Call) :
    manager.after (calls ++ more) = (manager.after calls).after more :=
  List.foldl_append

/-- The manager may become this one by calls. -/
def Reaches (manager next : Manager) : Prop := ∃ calls, manager.after calls = next

theorem reaches_refl (manager : Manager) : manager.Reaches manager := ⟨[], rfl⟩

theorem reaches_run (call : Call) (manager : Manager) : manager.Reaches (call.run manager).2 :=
  ⟨[call], rfl⟩

theorem Reaches.trans {first second third : Manager} (h : first.Reaches second)
    (hn : second.Reaches third) : first.Reaches third := by
  obtain ⟨calls, rfl⟩ := h
  obtain ⟨more, rfl⟩ := hn
  exact ⟨calls ++ more, after_append first calls more⟩

theorem isValid_initial : initial.current.isValid = true := by
  unfold isValid initial
  rw [faults_default]
  rfl

theorem isValid_after {manager : Manager} (h : manager.current.isValid = true)
    (calls : List Call) : (manager.after calls).current.isValid = true := by
  induction calls generalizing manager with
  | nil => exact h
  | cons call calls ih => exact ih (Call.isValid_run h)

theorem Reaches.isValid {manager next : Manager} (h : manager.Reaches next)
    (hv : manager.current.isValid = true) : next.current.isValid = true := by
  obtain ⟨calls, rfl⟩ := h
  exact isValid_after hv calls

end Manager

end AlAssistant.Settings
