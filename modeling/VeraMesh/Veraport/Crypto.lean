import Mathlib.Data.Finset.Image
import VeraMesh.Lib.Utf8
import VeraMesh.Session.Handshake

/-!
# The Go side of the handshake

`crypto.go`: the messages of the handshake, what is signed, and the checks of the controller. A Go
string is the list of its bytes. The Python bytes of the same messages are those of
`hot_session.py`, where the strings are lists of code points and encoded field by field.

## Main results

* `signatureBases_agree`: both languages sign the same bytes for the same message, and these bytes
  determine the message and its kind.
* `verifyServerAccept_ok`: everything that was checked before a binding was made.
-/

namespace VeraMesh

open Except

/-! ## Signed bytes in Python -/

/-- `_field`. -/
def fieldBytes (name : String) (value : List Char) : List UInt8 :=
  let raw := utf8 value
  utf8 name.toList ++ utf8 ['='] ++ utf8 (Nat.toDigits 10 raw.length) ++ utf8 [':'] ++ raw ++
    utf8 ['\n']

/-- `ClientAuth.signature_base`. -/
def ClientAuth.signatureBytes (c : ClientAuth) : List UInt8 :=
  utf8 domainClient.toList ++ (List.zipWith fieldBytes clientFields c.signedValues).flatten

/-- `ServerAccept.signature_base`. -/
def ServerAccept.signatureBytes (a : ServerAccept) : List UInt8 :=
  utf8 domainServer.toList ++ (List.zipWith fieldBytes serverFields a.signedValues).flatten

/-- The fields that a controller signs, with the capabilities as a set. -/
def ClientAuth.signedFields (c : ClientAuth) :
    String × String × String × String × String × String × Finset String :=
  (c.protocolVersion, c.controllerPrincipal, c.controllerKeyId, c.workstationPrincipal,
    c.serverChallenge, c.clientNonce, c.requestedCapabilities.toFinset)

/-- The fields that a workstation signs, with the capabilities as a set. -/
def ServerAccept.signedFields (a : ServerAccept) :
    String × String × String × String × String × String × String × Finset String × ℤ :=
  (a.protocolVersion, a.sessionId, a.controllerPrincipal, a.workstationPrincipal,
    a.workstationKeyId, a.serverChallenge, a.clientNonce, a.grantedCapabilities.toFinset,
    a.expiresAtMs)

section PythonBytes

/-- The size that is written in front of a field is its size in bytes. -/
theorem fieldBytes_eq (name : String) (value : List Char) :
    fieldBytes name value = utf8 (field name value) := by
  have htext : field name value = name.toList ++ (['='] ++
      (Nat.toDigits 10 (value.map Char.utf8Size).sum ++ [':'] ++ value)) ++ ['\n'] := rfl
  rw [fieldBytes, htext, length_utf8]
  simp only [utf8_append, List.append_assoc]

theorem flatten_fieldBytes (names : List String) (values : List (List Char)) :
    (List.zipWith fieldBytes names values).flatten = utf8 (fields names values) := by
  rw [fields, utf8_flatten, List.map_zipWith]
  congr 2
  funext name value
  exact fieldBytes_eq name value

/-- The signed bytes are those of the signed text. -/
theorem ClientAuth.signatureBytes_eq (c : ClientAuth) :
    c.signatureBytes = utf8 c.signatureBase := by
  rw [signatureBytes, signatureBase, utf8_append, flatten_fieldBytes]

/-- The signed bytes are those of the signed text. -/
theorem ServerAccept.signatureBytes_eq (a : ServerAccept) :
    a.signatureBytes = utf8 a.signatureBase := by
  rw [signatureBytes, signatureBase, utf8_append, flatten_fieldBytes]

/-- The signed bytes of a client determine what it signed. -/
theorem ClientAuth.signedFields_of_signatureBytes {c d : ClientAuth}
    (hc : ∀ name ∈ c.requestedCapabilities, IsCapabilityName name)
    (hd : ∀ name ∈ d.requestedCapabilities, IsCapabilityName name)
    (h : c.signatureBytes = d.signatureBytes) : c.signedFields = d.signedFields := by
  rw [signatureBytes_eq, signatureBytes_eq] at h
  have hvalues : c.signedValues = d.signedValues :=
    fields_injective rfl rfl (List.append_cancel_left (utf8_injective h))
  simp only [signedValues, List.cons.injEq, String.toList_inj] at hvalues
  obtain ⟨hversion, hcontroller, hkey, hworkstation, hchallenge, hnonce, hcaps, -⟩ := hvalues
  simp only [signedFields, hversion, hcontroller, hkey, hworkstation, hchallenge, hnonce,
    capabilitiesText_injective hc hd hcaps]

/-- The signed bytes of an accept determine what was signed. -/
theorem ServerAccept.signedFields_of_signatureBytes {a b : ServerAccept}
    (ha : ∀ name ∈ a.grantedCapabilities, IsCapabilityName name)
    (hb : ∀ name ∈ b.grantedCapabilities, IsCapabilityName name)
    (h : a.signatureBytes = b.signatureBytes) : a.signedFields = b.signedFields := by
  rw [signatureBytes_eq, signatureBytes_eq] at h
  have hvalues : a.signedValues = b.signedValues :=
    fields_injective rfl rfl (List.append_cancel_left (utf8_injective h))
  simp only [signedValues, List.cons.injEq, String.toList_inj] at hvalues
  obtain ⟨hversion, hsession, hcontroller, hworkstation, hkey, hchallenge, hnonce, hcaps, hexpires,
    -⟩ := hvalues
  simp only [signedFields, hversion, hsession, hcontroller, hworkstation, hkey, hchallenge, hnonce,
    capabilitiesText_injective ha hb hcaps, intText_injective hexpires]

/-- No client signs what a workstation signs. -/
theorem ClientAuth.signatureBytes_ne (c : ClientAuth) (a : ServerAccept) :
    c.signatureBytes ≠ a.signatureBytes := by
  rw [signatureBytes_eq, ServerAccept.signatureBytes_eq]
  exact fun h => signatureBase_ne c a (utf8_injective h)

end PythonBytes

namespace Veraport

/-! ## Signed bytes in Go -/

/-- A Go string: its bytes. -/
abbrev GoString := List UInt8

/-- A string of the Go source, or the Go string that a Python string arrives as. -/
def text (s : String) : GoString := utf8 s.toList

/-- `strconv.Itoa`, of a length. -/
def itoa (n : ℕ) : GoString := utf8 (Nat.toDigits 10 n)

/-- `strconv.FormatInt(n, 10)`. -/
def formatInt (n : Int64) : GoString :=
  if n.toInt < 0 then text "-" ++ itoa n.toInt.natAbs else itoa n.toInt.natAbs

/-- `field`. -/
def field (name : String) (value : GoString) : GoString :=
  text name ++ text "=" ++ itoa value.length ++ text ":" ++ value ++ text "\n"

/-- Fields, one after another. -/
def fields (names : List String) (values : List GoString) : GoString :=
  (List.zipWith field names values).flatten

/-- `normalizeCapabilities`: the keys of a map, sorted. -/
def normalizeCapabilities (values : List GoString) : List GoString :=
  values.dedup.insertionSort (· ≤ ·)

/-- `capabilityString`. -/
def capabilityString (values : List GoString) : GoString :=
  (text ",").intercalate (normalizeCapabilities values)

structure ServerChallenge where
  frameType : GoString
  protocolVersion : GoString
  workstationPrincipal : GoString
  workstationKeyId : GoString
  challenge : GoString

structure ClientAuth where
  frameType : GoString
  protocolVersion : GoString
  controllerPrincipal : GoString
  controllerKeyId : GoString
  workstationPrincipal : GoString
  serverChallenge : GoString
  clientNonce : GoString
  requestedCapabilities : List GoString
  signature : GoString
  deriving DecidableEq

structure ServerAccept where
  frameType : GoString
  protocolVersion : GoString
  sessionId : GoString
  controllerPrincipal : GoString
  workstationPrincipal : GoString
  workstationKeyId : GoString
  serverChallenge : GoString
  clientNonce : GoString
  grantedCapabilities : List GoString
  expiresAtMs : Int64
  signature : GoString
  code : GoString
  message : GoString

/-- The fields that `ClientAuth.SignatureBase` covers. -/
def ClientAuth.signedValues (x : ClientAuth) : List GoString :=
  [x.protocolVersion, x.controllerPrincipal, x.controllerKeyId, x.workstationPrincipal,
    x.serverChallenge, x.clientNonce, capabilityString x.requestedCapabilities]

/-- The fields that `ServerAccept.SignatureBase` covers. -/
def ServerAccept.signedValues (x : ServerAccept) : List GoString :=
  [x.protocolVersion, x.sessionId, x.controllerPrincipal, x.workstationPrincipal,
    x.workstationKeyId, x.serverChallenge, x.clientNonce, capabilityString x.grantedCapabilities,
    formatInt x.expiresAtMs]

/-- `ClientAuth.SignatureBase`. -/
def ClientAuth.signatureBase (x : ClientAuth) : GoString :=
  text domainClient ++ fields clientFields x.signedValues

/-- `ServerAccept.SignatureBase`. -/
def ServerAccept.signatureBase (x : ServerAccept) : GoString :=
  text domainServer ++ fields serverFields x.signedValues

/-- The fields that a controller signs, with the capabilities as a set. -/
def ClientAuth.signedFields (x : ClientAuth) :
    GoString × GoString × GoString × GoString × GoString × GoString × Finset GoString :=
  (x.protocolVersion, x.controllerPrincipal, x.controllerKeyId, x.workstationPrincipal,
    x.serverChallenge, x.clientNonce, x.requestedCapabilities.toFinset)

/-- The fields that a workstation signs, with the capabilities as a set. -/
def ServerAccept.signedFields (x : ServerAccept) :
    GoString × GoString × GoString × GoString × GoString × GoString × GoString ×
      Finset GoString × Int64 :=
  (x.protocolVersion, x.sessionId, x.controllerPrincipal, x.workstationPrincipal,
    x.workstationKeyId, x.serverChallenge, x.clientNonce, x.grantedCapabilities.toFinset,
    x.expiresAtMs)

/-- A capability name in bytes: not empty, and without commas. -/
def IsCapabilityName (name : GoString) : Prop := name ≠ [] ∧ 0x2C ∉ name

/-- The Go record with the fields of a Python client message. -/
def ClientAuth.ofPython (c : VeraMesh.ClientAuth) : ClientAuth where
  frameType := text "client_auth"
  protocolVersion := text c.protocolVersion
  controllerPrincipal := text c.controllerPrincipal
  controllerKeyId := text c.controllerKeyId
  workstationPrincipal := text c.workstationPrincipal
  serverChallenge := text c.serverChallenge
  clientNonce := text c.clientNonce
  requestedCapabilities := c.requestedCapabilities.map text
  signature := text c.signature

/-- The Go record with the fields of a Python accept message, whose expiry fits into 64 bits. -/
def ServerAccept.ofPython (a : VeraMesh.ServerAccept) (expiresAtMs : Int64) : ServerAccept where
  frameType := text "server_accept"
  protocolVersion := text a.protocolVersion
  sessionId := text a.sessionId
  controllerPrincipal := text a.controllerPrincipal
  workstationPrincipal := text a.workstationPrincipal
  workstationKeyId := text a.workstationKeyId
  serverChallenge := text a.serverChallenge
  clientNonce := text a.clientNonce
  grantedCapabilities := a.grantedCapabilities.map text
  expiresAtMs := expiresAtMs
  signature := text a.signature
  code := []
  message := []

section GoBytes

/-- Both languages write a field in the same bytes. -/
theorem field_eq (name : String) (value : List Char) :
    field name (utf8 value) = fieldBytes name value := rfl

/-- Both languages write the fields of a message in the same bytes. -/
theorem fields_eq (names : List String) (values : List (List Char)) :
    fields names (values.map utf8) = (List.zipWith fieldBytes names values).flatten := by
  rw [fields, List.zipWith_map_right]
  congr 2

/-- Sorting bytes or code points, the normal form of a list of capabilities is the same. -/
theorem normalizeCapabilities_map_text (values : List String) :
    normalizeCapabilities (values.map text) = (Python.sortedSet values).map text := by
  rw [normalizeCapabilities, Python.sortedSet]
  unfold text
  rw [map_insertionSort_utf8, map_dedup_utf8]

/-- The joined capabilities are the same. -/
theorem capabilityString_map_text (values : List String) :
    capabilityString (values.map text) = utf8 (capabilitiesText values) := by
  rw [capabilityString, normalizeCapabilities_map_text, capabilitiesText, utf8_intercalate,
    List.map_map]
  rfl

/-- A number is written the same. -/
theorem formatInt_eq (n : Int64) : formatInt n = utf8 (intText n.toInt) := by
  unfold formatInt
  cases n.toInt with
  | ofNat n =>
    rw [if_neg (by simp)]
    rfl
  | negSucc n =>
    rw [if_pos (Int.negSucc_lt_zero n), intText, show '-' :: Nat.toDigits 10 (n + 1) =
      ['-'] ++ Nat.toDigits 10 (n + 1) from rfl, utf8_append]
    rfl

theorem itoa_injective : Function.Injective itoa :=
  utf8_injective.comp toDigits_injective

/-- A number is written in digits. -/
theorem mem_itoa {b : UInt8} {n : ℕ} (h : b ∈ itoa n) : 48 ≤ b.toNat ∧ b.toNat ≤ 57 := by
  obtain ⟨c, hc, hb⟩ := List.mem_flatMap.mp h
  have hdigit : c.isDigit = true := Nat.isDigit_of_mem_toDigits (by decide) (by decide) hc
  have hrange : 48 ≤ c.val.toNat ∧ c.val.toNat ≤ 57 := by
    simpa [Char.isDigit, UInt32.le_iff_toNat_le] using hdigit
  rw [String.utf8EncodeChar, if_pos (by omega), List.mem_singleton] at hb
  subst hb
  rw [UInt8.toNat_ofNat']
  omega

theorem isPrefixCode_field (name : String) : IsPrefixCode (field name) := by
  have hheader : IsPrefixCode fun n : ℕ => itoa n ++ [0x3A] :=
    .delimited itoa_injective fun n hmem => absurd (mem_itoa hmem).2 (by decide)
  have hsized := IsPrefixCode.sized hheader fun _ : UInt8 => Nat.one_pos
  intro a b x y hab
  refine hsized.affix (text name ++ text "=") (text "\n") (a := a) (b := b) (x := x) (y := y) ?_
  have hcolon : text ":" = [0x3A] := by decide
  simpa [field, hcolon] using hab

theorem fields_injective {names : List String} {l m : List GoString}
    (hl : l.length = names.length) (hm : m.length = names.length)
    (h : fields names l = fields names m) : l = m :=
  IsPrefixCode.zipWith_flatten isPrefixCode_field names hl hm h

theorem formatInt_injective : Function.Injective formatInt := by
  intro m n hmn
  rw [formatInt_eq, formatInt_eq] at hmn
  exact Int64.toInt_inj.mp (intText_injective (utf8_injective hmn))

theorem mem_normalizeCapabilities {values : List GoString} {name : GoString} :
    name ∈ normalizeCapabilities values ↔ name ∈ values := by
  rw [normalizeCapabilities, List.mem_insertionSort, List.mem_dedup]

/-- The joined capability names determine the set of names. -/
theorem capabilityString_injective {l m : List GoString} (hl : ∀ name ∈ l, IsCapabilityName name)
    (hm : ∀ name ∈ m, IsCapabilityName name) (h : capabilityString l = capabilityString m) :
    l.toFinset = m.toFinset := by
  have hwords : ∀ l : List GoString, (∀ name ∈ l, IsCapabilityName name) →
      ∀ name ∈ normalizeCapabilities l, name ≠ [] ∧ 0x2C ∉ name :=
    fun l hl name hname => hl name (mem_normalizeCapabilities.mp hname)
  have hcomma : text "," = [0x2C] := by decide
  rw [capabilityString, capabilityString, hcomma] at h
  have hnormal := intercalate_injective (hwords l hl) (hwords m hm) h
  ext name
  rw [List.mem_toFinset, List.mem_toFinset, ← mem_normalizeCapabilities, hnormal,
    mem_normalizeCapabilities]

/-- The bytes that a client signs determine what it signed. -/
theorem ClientAuth.signedFields_of_signatureBase {x y : ClientAuth}
    (hx : ∀ name ∈ x.requestedCapabilities, IsCapabilityName name)
    (hy : ∀ name ∈ y.requestedCapabilities, IsCapabilityName name)
    (h : x.signatureBase = y.signatureBase) : x.signedFields = y.signedFields := by
  have hvalues : x.signedValues = y.signedValues :=
    fields_injective rfl rfl (List.append_cancel_left h)
  simp only [signedValues, List.cons.injEq] at hvalues
  obtain ⟨hversion, hcontroller, hkey, hworkstation, hchallenge, hnonce, hcaps, -⟩ := hvalues
  simp only [signedFields, hversion, hcontroller, hkey, hworkstation, hchallenge, hnonce,
    capabilityString_injective hx hy hcaps]

/-- The bytes that a workstation signs determine what it signed. -/
theorem ServerAccept.signedFields_of_signatureBase {x y : ServerAccept}
    (hx : ∀ name ∈ x.grantedCapabilities, IsCapabilityName name)
    (hy : ∀ name ∈ y.grantedCapabilities, IsCapabilityName name)
    (h : x.signatureBase = y.signatureBase) : x.signedFields = y.signedFields := by
  have hvalues : x.signedValues = y.signedValues :=
    fields_injective rfl rfl (List.append_cancel_left h)
  simp only [signedValues, List.cons.injEq] at hvalues
  obtain ⟨hversion, hsession, hcontroller, hworkstation, hkey, hchallenge, hnonce, hcaps, hexpires,
    -⟩ := hvalues
  simp only [signedFields, hversion, hsession, hcontroller, hworkstation, hkey, hchallenge, hnonce,
    capabilityString_injective hx hy hcaps, formatInt_injective hexpires]

/-- No client signs what a workstation signs. -/
theorem ClientAuth.signatureBase_ne (x : ClientAuth) (y : ServerAccept) :
    x.signatureBase ≠ y.signatureBase := by
  intro h
  -- the domains differ in the first letter after "session-"
  have hletter := congrArg (fun l => l[29]?) h
  have hclient : (text domainClient)[29]? = some 0x63 := by decide +kernel
  have hserver : (text domainServer)[29]? = some 0x73 := by decide +kernel
  have hclientLength : 29 < (text domainClient).length := by decide +kernel
  have hserverLength : 29 < (text domainServer).length := by decide +kernel
  simp only [signatureBase, ServerAccept.signatureBase, List.getElem?_append_left hclientLength,
    List.getElem?_append_left hserverLength, hclient, hserver] at hletter
  exact absurd hletter (by decide)

/-- The same client message is signed in the same bytes. -/
theorem ClientAuth.signatureBase_ofPython (c : VeraMesh.ClientAuth) :
    (ofPython c).signatureBase = c.signatureBytes := by
  have hvalues : (ofPython c).signedValues = c.signedValues.map utf8 := by
    simp only [signedValues, ofPython, capabilityString_map_text, VeraMesh.ClientAuth.signedValues,
      List.map_cons, List.map_nil, text]
  rw [signatureBase, hvalues, fields_eq]
  rfl

/-- The same accept message is signed in the same bytes. -/
theorem ServerAccept.signatureBase_ofPython {a : VeraMesh.ServerAccept} {n : Int64}
    (hn : a.expiresAtMs = n.toInt) : (ofPython a n).signatureBase = a.signatureBytes := by
  have hvalues : (ofPython a n).signedValues = a.signedValues.map utf8 := by
    simp only [signedValues, ofPython, capabilityString_map_text, formatInt_eq,
      VeraMesh.ServerAccept.signedValues, List.map_cons, List.map_nil, text, hn]
  rw [signatureBase, hvalues, fields_eq]
  rfl

/-- A capability name is one in bytes as well. -/
theorem isCapabilityName_text {name : String} (h : VeraMesh.IsCapabilityName name) :
    IsCapabilityName (text name) := by
  obtain ⟨hne, hcomma⟩ := h
  refine ⟨fun hnil => hne ?_, fun hmem => hcomma (mem_of_mem_utf8 (by decide) hmem)⟩
  exact utf8_toList_inj.mp hnil

/-- What both languages sign in the same bytes has the same fields. -/
theorem ServerAccept.fields_of_signatureBytes {x : ServerAccept} {a : VeraMesh.ServerAccept}
    (hx : ∀ name ∈ x.grantedCapabilities, IsCapabilityName name)
    (ha : ∀ name ∈ a.grantedCapabilities, VeraMesh.IsCapabilityName name)
    (h : a.signatureBytes = x.signatureBase) :
    x.sessionId = text a.sessionId ∧ x.controllerPrincipal = text a.controllerPrincipal ∧
      x.workstationPrincipal = text a.workstationPrincipal ∧
      x.serverChallenge = text a.serverChallenge ∧ x.clientNonce = text a.clientNonce ∧
      x.grantedCapabilities.toFinset = a.grantedCapabilities.toFinset.image text ∧
      x.expiresAtMs.toInt = a.expiresAtMs := by
  rw [VeraMesh.ServerAccept.signatureBytes, ← fields_eq] at h
  have hvalues : a.signedValues.map utf8 = x.signedValues :=
    fields_injective rfl rfl (List.append_cancel_left h)
  simp only [signedValues, VeraMesh.ServerAccept.signedValues, List.map_cons, List.cons.injEq]
    at hvalues
  obtain ⟨-, hsession, hcontroller, hworkstation, -, hchallenge, hnonce, hcaps, hexpires, -⟩ :=
    hvalues
  rw [← capabilityString_map_text] at hcaps
  rw [formatInt_eq] at hexpires
  have hnames : ∀ name ∈ a.grantedCapabilities.map text, IsCapabilityName name := by
    intro name hname
    obtain ⟨c, hc, rfl⟩ := List.mem_map.mp hname
    exact isCapabilityName_text (ha c hc)
  refine ⟨hsession.symm, hcontroller.symm, hworkstation.symm, hchallenge.symm, hnonce.symm, ?_,
    (intText_injective (utf8_injective hexpires)).symm⟩
  rw [← capabilityString_injective hnames hx hcaps]
  ext name
  simp only [List.mem_toFinset, List.mem_map, Finset.mem_image]

/-- **Signature bases across languages.** For all fields, Python and Go sign the same bytes. In each
language these bytes determine the fields, with the capability names as a set, and whether a client
or a workstation signs. -/
theorem signatureBases_agree :
    (∀ c : VeraMesh.ClientAuth, (ClientAuth.ofPython c).signatureBase = c.signatureBytes) ∧
    (∀ (a : VeraMesh.ServerAccept) (n : Int64), a.expiresAtMs = n.toInt →
      (ServerAccept.ofPython a n).signatureBase = a.signatureBytes) ∧
    (∀ c d : VeraMesh.ClientAuth,
      (∀ name ∈ c.requestedCapabilities, VeraMesh.IsCapabilityName name) →
      (∀ name ∈ d.requestedCapabilities, VeraMesh.IsCapabilityName name) →
      c.signatureBytes = d.signatureBytes → c.signedFields = d.signedFields) ∧
    (∀ a b : VeraMesh.ServerAccept,
      (∀ name ∈ a.grantedCapabilities, VeraMesh.IsCapabilityName name) →
      (∀ name ∈ b.grantedCapabilities, VeraMesh.IsCapabilityName name) →
      a.signatureBytes = b.signatureBytes → a.signedFields = b.signedFields) ∧
    (∀ (c : VeraMesh.ClientAuth) (a : VeraMesh.ServerAccept), c.signatureBytes ≠ a.signatureBytes) ∧
    (∀ x y : ClientAuth, (∀ name ∈ x.requestedCapabilities, IsCapabilityName name) →
      (∀ name ∈ y.requestedCapabilities, IsCapabilityName name) →
      x.signatureBase = y.signatureBase → x.signedFields = y.signedFields) ∧
    (∀ x y : ServerAccept, (∀ name ∈ x.grantedCapabilities, IsCapabilityName name) →
      (∀ name ∈ y.grantedCapabilities, IsCapabilityName name) →
      x.signatureBase = y.signatureBase → x.signedFields = y.signedFields) ∧
    ∀ (x : ClientAuth) (y : ServerAccept), x.signatureBase ≠ y.signatureBase :=
  ⟨ClientAuth.signatureBase_ofPython, fun _ _ => ServerAccept.signatureBase_ofPython,
    fun _ _ => VeraMesh.ClientAuth.signedFields_of_signatureBytes,
    fun _ _ => VeraMesh.ServerAccept.signedFields_of_signatureBytes,
    VeraMesh.ClientAuth.signatureBytes_ne, fun _ _ => ClientAuth.signedFields_of_signatureBase,
    fun _ _ => ServerAccept.signedFields_of_signatureBase, ClientAuth.signatureBase_ne⟩

/-- A client message with names out of order, and names beyond ASCII. -/
def unsortedClient (requestedCapabilities : List String) : VeraMesh.ClientAuth :=
  ⟨"veraport-v1", "controller:c", "c", "workstation:w", "n", "m", requestedCapabilities, ""⟩

theorem signatureBases_agree_unsortedClient :
    (ClientAuth.ofPython (unsortedClient ["～", "😀", "b", "b"])).signatureBase =
      (unsortedClient ["b", "😀", "～"]).signatureBytes ∧
    (unsortedClient ["～", "😀", "b", "b"]).signedFields =
      (unsortedClient ["b", "😀", "～"]).signedFields := by
  have hnames : ∀ l : List String, l ⊆ ["b", "😀", "～"] →
      ∀ name ∈ l, VeraMesh.IsCapabilityName name := by
    intro l hl name hname
    have hmem := hl hname
    simp only [List.mem_cons, List.not_mem_nil, or_false] at hmem
    rcases hmem with rfl | rfl | rfl <;> exact ⟨by decide, by decide⟩
  have hbytes : (unsortedClient ["～", "😀", "b", "b"]).signatureBytes =
      (unsortedClient ["b", "😀", "～"]).signatureBytes := by decide +kernel
  obtain ⟨hagree, -, hinjective, -⟩ := signatureBases_agree
  refine ⟨(hagree _).trans hbytes, ?_⟩
  exact hinjective _ _ (hnames _ (by decide)) (hnames _ (by decide)) hbytes

end GoBytes

/-! ## The controller's side -/

/-- What the handshake uses of cryptography in both languages. -/
structure SharedCrypto (PublicKey : Type) extends Crypto PublicKey where
  /-- Whether `verifyP1363` passes. -/
  verifyP1363 : PublicKey → GoString → GoString → Bool

variable {PublicKey : Type} (crypto : SharedCrypto PublicKey)

/-- `KeyID`: the same digest as in Python, in hexadecimal. -/
def keyID (key : PublicKey) : GoString := text (crypto.keyId key)

/-- `PrincipalID`. -/
def principalID (key : PublicKey) (kind : String) : GoString :=
  text kind ++ text ":" ++ keyID crypto key

theorem principalID_eq (key : PublicKey) (kind : String) :
    principalID crypto key kind = text (principalId crypto.toCrypto key kind) := by
  simp only [principalID, keyID, text, principalId, String.toList_append, utf8_append]

/-- A byte of the alphabet of `base64.RawURLEncoding`: a letter, a digit, `-` or `_`. -/
def isRawURLByte (b : UInt8) : Bool :=
  (65 ≤ b && b ≤ 90) || (97 ≤ b && b ≤ 122) || (48 ≤ b && b ≤ 57) || b == 45 || b == 95

/-- The number of bytes that `rawURL.DecodeString` gives, if it succeeds. Line breaks are skipped,
and the last bits are not looked at. -/
def rawURLLength (s : GoString) : Option ℕ :=
  let data := s.filter fun b => b ≠ 10 ∧ b ≠ 13
  if data.all isRawURLByte ∧ data.length % 4 ≠ 1 then some (data.length * 6 / 8) else none

/-- `CreateClientAuth`, with the text of the random bytes and the signature it makes. -/
def createClientAuth (controllerKey : PublicKey) (challenge : ServerChallenge)
    (requestedCapabilities : List GoString) (nonce signature : GoString) :
    Except GoString ClientAuth := do
  require (challenge.frameType = text "server_challenge" ∧
      challenge.protocolVersion = text "veraport-v1")
    (text "expected VeraPort V1 server_challenge")
  require (rawURLLength challenge.challenge = some 32)
    (text "server challenge must be exactly 32 bytes")
  return {
    frameType := text "client_auth"
    protocolVersion := text "veraport-v1"
    controllerPrincipal := principalID crypto controllerKey "controller"
    controllerKeyId := keyID crypto controllerKey
    workstationPrincipal := challenge.workstationPrincipal
    serverChallenge := challenge.challenge
    clientNonce := nonce
    requestedCapabilities := normalizeCapabilities requestedCapabilities
    signature := signature }

structure SessionBinding where
  sessionId : GoString
  controllerPrincipal : GoString
  workstationPrincipal : GoString
  grantedCapabilities : Finset GoString
  expiresAtMs : Int64
  deriving DecidableEq

/-- The error for an accept frame of another type. -/
def wrongFrame (accept : ServerAccept) : GoString :=
  if accept.frameType = text "session_reject" then
    text "session rejected: " ++ accept.code ++ text ": " ++ accept.message
  else text "expected server_accept"

/-- The set of granted capabilities, or the first one that was not requested. -/
def grantedSet (requested granted : List GoString) : Except GoString (Finset GoString) :=
  match granted.find? (· ∉ requested) with
  | some cap => .error (text "server granted unrequested capability: " ++ cap)
  | none => .ok granted.toFinset

/-- `VerifyServerAccept`. -/
def verifyServerAccept (challenge : ServerChallenge) (client : ClientAuth) (accept : ServerAccept)
    (workstationKey : PublicKey) (nowMs : Int64) : Except GoString SessionBinding := do
  require (accept.frameType = text "server_accept") (wrongFrame accept)
  require (challenge.protocolVersion = text "veraport-v1" ∧
      client.protocolVersion = text "veraport-v1" ∧ accept.protocolVersion = text "veraport-v1")
    (text "protocol_version must be veraport-v1")
  let expectedPrincipal := principalID crypto workstationKey "workstation"
  let expectedKeyID := keyID crypto workstationKey
  require (challenge.workstationPrincipal = expectedPrincipal ∧
      challenge.workstationKeyId = expectedKeyID ∧
      accept.workstationPrincipal = expectedPrincipal ∧ accept.workstationKeyId = expectedKeyID)
    (text "workstation identity does not match pinned public key")
  require (accept.controllerPrincipal = client.controllerPrincipal)
    (text "server accept bound a different controller")
  require (accept.serverChallenge = challenge.challenge ∧ accept.clientNonce = client.clientNonce)
    (text "server accept does not bind both session nonces")
  let granted ← grantedSet client.requestedCapabilities accept.grantedCapabilities
  require (nowMs < accept.expiresAtMs) (text "server accept is expired")
  require (crypto.verifyP1363 workstationKey accept.signature accept.signatureBase = true)
    (text "P-256 signature verification failed")
  return {
    sessionId := accept.sessionId
    controllerPrincipal := accept.controllerPrincipal
    workstationPrincipal := accept.workstationPrincipal
    grantedCapabilities := granted
    expiresAtMs := accept.expiresAtMs }

variable {crypto}

/-- Everything granted was requested. -/
theorem grantedSet_eq_ok {requested granted : List GoString} {set : Finset GoString} :
    grantedSet requested granted = .ok set ↔
      (∀ name ∈ granted, name ∈ requested) ∧ granted.toFinset = set := by
  unfold grantedSet
  cases hfind : granted.find? (· ∉ requested) with
  | some cap =>
    have hcap := List.find?_some hfind
    have hmem := List.mem_of_find?_eq_some hfind
    simp only [reduceCtorEq, false_iff]
    exact fun h => absurd (h.1 cap hmem) (of_decide_eq_true hcap)
  | none =>
    have hall : ∀ name ∈ granted, name ∈ requested := by
      simpa using hfind
    simp only [Except.ok.injEq]
    exact ⟨fun h => ⟨hall, h⟩, fun h => h.2⟩

/-- What is known about a client message that was made. -/
theorem createClientAuth_ok {controllerKey : PublicKey} {challenge : ServerChallenge}
    {requestedCapabilities : List GoString} {nonce signature : GoString} {auth : ClientAuth}
    (h : createClientAuth crypto controllerKey challenge requestedCapabilities nonce signature =
      .ok auth) :
    auth.serverChallenge = challenge.challenge ∧ auth.clientNonce = nonce ∧
      auth.requestedCapabilities = normalizeCapabilities requestedCapabilities := by
  simp only [createClientAuth, bind_eq_ok, pure_eq_ok, require_eq_ok] at h
  obtain ⟨-, -, -, -, rfl⟩ := h
  exact ⟨rfl, rfl, rfl⟩

/-- What is known about an accept that the controller verified. -/
theorem verifyServerAccept_ok {challenge : ServerChallenge} {client : ClientAuth}
    {accept : ServerAccept} {workstationKey : PublicKey} {nowMs : Int64} {binding : SessionBinding}
    (h : verifyServerAccept crypto challenge client accept workstationKey nowMs = .ok binding) :
    accept.serverChallenge = challenge.challenge ∧ accept.clientNonce = client.clientNonce ∧
    (∀ name ∈ accept.grantedCapabilities, name ∈ client.requestedCapabilities) ∧
    crypto.verifyP1363 workstationKey accept.signature accept.signatureBase = true ∧
    binding = ⟨accept.sessionId, accept.controllerPrincipal, accept.workstationPrincipal,
      accept.grantedCapabilities.toFinset, accept.expiresAtMs⟩ := by
  simp only [verifyServerAccept, bind_eq_ok, pure_eq_ok, require_eq_ok, grantedSet_eq_ok] at h
  obtain ⟨-, -, -, -, -, -, -, -, -, ⟨hchallenge, hnonce⟩, _, ⟨hrequested, rfl⟩, -, -, -, hverify,
    rfl⟩ := h
  exact ⟨hchallenge, hnonce, hrequested, hverify, rfl⟩

end Veraport

end VeraMesh
