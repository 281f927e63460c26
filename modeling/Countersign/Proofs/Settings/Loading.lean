import Countersign.Proofs.Fallible
import Countersign.Proofs.Settings.Services
import Countersign.Proofs.Text.Decimal
/-! Settings that are loaded are in a normal form. Each field is read of its own variable
alone, and what it then holds is read back from the way it is written. -/

namespace Countersign.Settings

open Text (lower trim)
open Text.Decimal (render wordBound)

variable {source source' : Source} {s s' : Settings} {name : Text} {n default : Nat}

/-- What a field holds. -/
inductive Value
  | text (t : Text)
  | texts (ts : List Text)
  | number (n : Nat)

/-- How a variable says it. -/
def Value.written : Value → Text
  | text t => t
  | texts ts => Text.join "," ts
  | number n => render n

/-- All fields, each under the name of its variable. -/
def fields (s : Settings) : List (Text × Value) :=
  [("GATEWAY_LISTEN", .text s.listen), ("LOG_LEVEL", .text s.logLevel),
   ("SERVICES", .texts s.services), ("KEYS_ENV", .text s.keysVariable),
   ("HOSTS_ENV", .text s.hostsVariable), ("SERVICE_HOSTS_ENV", .text s.serviceHostsVariable),
   ("UPSTREAM_SCHEME", .text s.originScheme),
   ("UPSTREAM_TIMEOUT_SECS", .number s.originTimeoutSeconds),
   ("BODY_BUFFER_CHUNKS", .number s.bufferChunks)]

theorem toVariables_eq (s : Settings) :
    s.toVariables = s.fields.map fun field => (field.1, field.2.written) := rfl

/-! ## What is loaded -/

/-- The settings of a source, field by field. -/
structure LoadedFrom (source : Source) (s : Settings) : Prop where
  listen : s.listen = (source "GATEWAY_LISTEN").getD "0.0.0.0:8080"
  logLevel : s.logLevel = (source "LOG_LEVEL").getD "info"
  services : s.services = ((source "SERVICES").map readServices).getD ["s3".toList]
  keysVariable : s.keysVariable = (source "KEYS_ENV").getD "GATEWAY_KEYS"
  hostsVariable : s.hostsVariable = (source "HOSTS_ENV").getD "GATEWAY_HOSTS"
  serviceHostsVariable :
    s.serviceHostsVariable = (source "SERVICE_HOSTS_ENV").getD "GATEWAY_SERVICE_HOSTS"
  originScheme :
    s.originScheme = ((source "UPSTREAM_SCHEME").map fun v => lower (trim v)).getD "https"
  timeout : numberOr source "UPSTREAM_TIMEOUT_SECS" 60 = .ok s.originTimeoutSeconds
  chunks : numberOr source "BODY_BUFFER_CHUNKS" 16 = .ok s.bufferChunks
  valid : s.validate = .ok ()

theorem load_eq_ok : load source = .ok s ↔ LoadedFrom source s := by
  simp only [load, bind_eq_ok]
  constructor
  · rintro ⟨timeout, htimeout, chunks, hchunks, _, hvalid, hs⟩
    obtain rfl := Except.ok.inj hs
    exact ⟨rfl, rfl, rfl, rfl, rfl, rfl, rfl, htimeout, hchunks, hvalid⟩
  · intro h
    cases s
    obtain ⟨rfl, rfl, rfl, rfl, rfl, rfl, rfl, htimeout, hchunks, hvalid⟩ := h
    exact ⟨_, htimeout, _, hchunks, (), hvalid, rfl⟩

theorem validate_eq_ok : s.validate = .ok () ↔
    (s.originScheme = "http" ∨ s.originScheme = "https") ∧ s.bufferChunks ≠ 0 ∧
      s.services ≠ [] := by
  unfold validate
  split
  · next h => exact ⟨nofun, fun h' => absurd h'.1 (by tauto)⟩
  · next hscheme =>
    split
    · next h => exact ⟨nofun, fun h' => absurd h h'.2.1⟩
    · next hchunks =>
      split
      · next h => exact ⟨nofun, fun h' => absurd h h'.2.2⟩
      · next hservices => exact ⟨fun _ => ⟨by tauto, hchunks, hservices⟩, fun _ => rfl⟩

theorem LoadedFrom.listed (h : LoadedFrom source s) :
    ListedBy ((source "SERVICES").getD []) s.services := by
  rw [h.services]
  cases source "SERVICES" with
  | none => exact listedBy_readServices []
  | some raw => exact listedBy_readServices raw

/-! ## Reading back -/

theorem lt_of_numberOr (h : numberOr source name default = .ok n) (hdefault : default < wordBound) :
    n < wordBound := by
  unfold numberOr at h
  split at h
  · unfold readNumber at h
    split at h
    · next hread => exact Except.ok.inj h ▸ Text.Decimal.lt_of_read? hread
    · cases h
  · exact Except.ok.inj h ▸ hdefault

theorem readNumber_render (name : Text) (h : n < wordBound) :
    readNumber name (render n) = .ok n := by
  rw [readNumber, Text.Decimal.trim_render, Text.Decimal.read?_render h]

theorem LoadedFrom.again (h : LoadedFrom source s) : LoadedFrom (sourceOf s.toVariables) s where
  listen := rfl
  logLevel := rfl
  services := (readServices_join h.listed).symm
  keysVariable := rfl
  hostsVariable := rfl
  serviceHostsVariable := rfl
  originScheme := by
    -- one of two texts, both of which trimming and small letters leave alone
    change s.originScheme = lower (trim s.originScheme)
    rcases (validate_eq_ok.1 h.valid).1 with hscheme | hscheme <;> rw [hscheme] <;> decide
  timeout := readNumber_render _ (lt_of_numberOr h.timeout (by decide))
  chunks := readNumber_render _ (lt_of_numberOr h.chunks (by decide))
  valid := h.valid

/-! ## One variable at a time -/

/-- Where two sources agree on a variable, two lists of fields do. -/
def Apart (source source' : Source) : List (Text × Value) → List (Text × Value) → Prop :=
  List.Forall₂ fun field field' =>
    field.1 = field'.1 ∧ (source field.1 = source' field.1 → field.2 = field'.2)

theorem Apart.cons {v v' : Value} {fs fs' : List (Text × Value)}
    (hv : source name = source' name → v = v') (h : Apart source source' fs fs') :
    Apart source source' ((name, v) :: fs) ((name, v') :: fs') :=
  List.Forall₂.cons ⟨rfl, hv⟩ h

theorem Apart.lookup_eq {fs fs' : List (Text × Value)} (h : Apart source source' fs fs')
    (hname : source name = source' name) : fs.lookup name = fs'.lookup name := by
  induction h with
  | nil => rfl
  | @cons field field' fs fs' hfield _ ih =>
    obtain ⟨key, v⟩ := field
    obtain ⟨key', v'⟩ := field'
    obtain ⟨rfl, hv⟩ : key = key' ∧ (source key = source' key → v = v') := hfield
    rw [List.lookup_cons, List.lookup_cons, ih]
    cases heq : name == key with
    | false => rfl
    | true =>
      obtain rfl := eq_of_beq heq
      rw [hv hname]

theorem numberOr_congr {n' : Nat} (h : numberOr source name default = .ok n)
    (h' : numberOr source' name default = .ok n') (hname : source name = source' name) : n = n' := by
  rw [numberOr, hname, ← numberOr, h'] at h
  exact (Except.ok.inj h).symm

theorem LoadedFrom.apart (h : LoadedFrom source s) (h' : LoadedFrom source' s') :
    Apart source source' s.fields s'.fields :=
  .cons (fun e => by rw [h.listen, h'.listen, e]) <|
  .cons (fun e => by rw [h.logLevel, h'.logLevel, e]) <|
  .cons (fun e => by rw [h.services, h'.services, e]) <|
  .cons (fun e => by rw [h.keysVariable, h'.keysVariable, e]) <|
  .cons (fun e => by rw [h.hostsVariable, h'.hostsVariable, e]) <|
  .cons (fun e => by rw [h.serviceHostsVariable, h'.serviceHostsVariable, e]) <|
  .cons (fun e => by rw [h.originScheme, h'.originScheme, e]) <|
  .cons (fun e => congrArg Value.number (numberOr_congr h.timeout h'.timeout e)) <|
  .cons (fun e => congrArg Value.number (numberOr_congr h.chunks h'.chunks e)) .nil

/-- What holds of settings that a source gives. -/
structure Normal (source : Source) (s : Settings) : Prop where
  valid : s.validate = .ok ()
  /-- A variable that is not set counts as blank. -/
  services : ListedBy ((source "SERVICES").getD []) s.services
  again : load (sourceOf (s.fields.map fun field => (field.1, field.2.written))) = .ok s
  apart : ∀ source' s', load source' = .ok s' → ∀ name, source name = source' name →
    s.fields.lookup name = s'.fields.lookup name

/-- Whatever settings are loaded, they are valid, their services are clean names in the order
in which they first stand in their variable, they are loaded again from their fields written
out, and a field is the same for every source that has the same in its variable. -/
theorem loaded_is_normal (source : Source) (s : Settings) (h : load source = .ok s) :
    Normal source s := by
  have hloaded := load_eq_ok.1 h
  exact {
    valid := hloaded.valid
    services := hloaded.listed
    again := toVariables_eq s ▸ load_eq_ok.2 hloaded.again
    apart := fun _ _ h' _ => (hloaded.apart (load_eq_ok.1 h')).lookup_eq }

/-- Blanks, capitals, a name twice, a sign, and the largest number there is. -/
def untidy : Source := sourceOf
  [("SERVICES", " S3,x ,,s3"), ("UPSTREAM_SCHEME", "HTTP\t"), ("BODY_BUFFER_CHUNKS", "+07"),
   ("UPSTREAM_TIMEOUT_SECS", "18446744073709551615")]

def tidied : Settings :=
  { services := ["s3", "x"], originScheme := "http", bufferChunks := 7,
    originTimeoutSeconds := 18446744073709551615 }

/-- Written out, the settings of an untidy source are loaded as before. -/
theorem loaded_is_normal_of_untidy : load untidy = .ok tidied ∧ Normal untidy tidied ∧
    load (sourceOf tidied.toVariables) = .ok tidied := by
  have h : load untidy = .ok tidied := by decide +kernel
  have hnormal := loaded_is_normal untidy tidied h
  exact ⟨h, hnormal, hnormal.again⟩

end Countersign.Settings
