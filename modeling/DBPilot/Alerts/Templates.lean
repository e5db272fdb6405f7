import DBPilot.Alerts.Versions

/-!
# What accepted templates render to

A template is read as literal characters and placeholders. `validTemplateText` checks
it without its values; the check after rendering also sees the braces of the values.
-/

namespace DBPilot.Alerts

open Text

def supportedPlaceholder (name : List Char) : Bool :=
  ["event.id", "event.state", "event.severity", "evidence.aggregate", "event.url"].contains (String.ofList name) ||
    (resourceName name).isSome

def hasBraces (text : List Char) : Bool := contains openBraces text || contains closeBraces text

def validTemplateText (source : String) : Bool :=
  match substitute (fun name => if supportedPlaceholder name then some [] else none) source.toList.length
    source.toList with
  | none => false
  | some rendered => !hasBraces rendered

/-- The literal characters and the placeholders of a template. -/
def pieces : Nat → List Char → List (Char ⊕ List Char)
  | 0, _ => []
  | _ + 1, [] => []
  | fuel + 1, c :: rest =>
    match placeholder (c :: rest) with
    | some (name, rest) => .inr name :: pieces fuel rest
    | none => .inl c :: pieces fuel rest

/-- The template with the values of an event in place, taken literally. -/
def literalText {F : Type} (rule : AlertRule F) (event : AlertEvent) (state : EventState) (eventURL source : String) :
    List Char :=
  (pieces source.toList.length source.toList).flatMap (Sum.elim ([·]) fun name =>
    (placeholderValue (templateValues rule event state eventURL) event.labels name).getD [])

lemma substitute_eq_some {value : List Char → Option (List Char)} {fuel : Nat} {source out : List Char} :
    substitute value fuel source = some out ↔ (∀ name, .inr name ∈ pieces fuel source → (value name).isSome = true) ∧
      (pieces fuel source).flatMap (Sum.elim ([·]) fun name => (value name).getD []) = out := by
  fun_induction pieces fuel source generalizing out with
  | case1 | case2 => simp [substitute]
  | case3 fuel c rest name after found ih =>
    unfold substitute
    rw [found]
    cases known : value name <;> simp [known, ih, Option.bind_eq_some_iff, and_assoc]
  | case4 fuel c rest found ih =>
    unfold substitute
    rw [found]
    simp [ih, Option.bind_eq_some_iff, and_assoc]

variable {F : Type} {rule : AlertRule F} {event : AlertEvent} {state : EventState} {url : String}

lemma value_of_supported {labels : StringMap} {name : List Char} (supported : supportedPlaceholder name = true) :
    (placeholderValue (templateValues rule event state url) labels name).isSome = true := by
  unfold placeholderValue
  split
  · rfl
  · rfl
  · rename_i unnamed unlabelled
    simp [supportedPlaceholder, unlabelled] at supported
    rcases supported with h | h | h | h | h <;> simp [templateValues, StringMap.get, h] at unnamed

/-- An accepted template renders to its literal text where the values leave no brace doubled. -/
theorem renders_literally_iff {source : String} (accepted : validTemplateText source = true) :
    renderNotificationText source (templateValues rule event state url) event.labels =
        .ok (String.ofList (literalText rule event state url source)) ↔
      hasBraces (literalText rule event state url source) = false := by
  have known : ∀ name, .inr name ∈ pieces source.toList.length source.toList →
      (placeholderValue (templateValues rule event state url) event.labels name).isSome = true := by
    intro name listed
    apply value_of_supported
    unfold validTemplateText at accepted
    split at accepted
    · cases accepted
    · rename_i checked
      simpa using (substitute_eq_some.mp checked).1 name listed
  unfold renderNotificationText
  rw [substitute_eq_some.mpr ⟨known, rfl⟩]
  dsimp only
  rw [← literalText, ← hasBraces]
  split <;> simp_all

/-- A template of one label, and events whose label has braces. -/
def hostTemplate : String := "\x7b\x7bresource.host\x7d\x7d"

def hostEvent (host : String) : AlertEvent := { sampleResolved with labels := [("host", host)] }

theorem braces_refused : validTemplateText hostTemplate = true ∧ (hostEvent "\x7b\x7bdb").validate = true ∧
    renderNotificationText hostTemplate (templateValues sampleRule (hostEvent "\x7b\x7bdb") .resolved "")
      (hostEvent "\x7b\x7bdb").labels = .error .invalidTemplate := by
  decide +kernel

theorem renders_literally_host :
    renderNotificationText hostTemplate (templateValues sampleRule (hostEvent "\x7bdb\x7d") .resolved "")
      (hostEvent "\x7bdb\x7d").labels =
        .ok (String.ofList (literalText sampleRule (hostEvent "\x7bdb\x7d") .resolved "" hostTemplate)) :=
  (renders_literally_iff (by decide +kernel)).mpr (by decide +kernel)

end DBPilot.Alerts
