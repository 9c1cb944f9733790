/-
  ApiPlaybook.Credential
  ──────────────────────
  **REFERENCES TO CREDENTIALS AND THEIR VALUES.**

  A reference names a credential and perhaps one of its methods:
  `credential/method`.  A value that was obtained once is kept in a cache under
  the credential and the method it was obtained by, whichever way these were
  referred to.
-/
import ApiPlaybook.Bundle.Basic

namespace ApiPlaybook

/-! ## §1. References. -/

/-- A reference to a credential. -/
structure AuthRef where
  credential : String
  method : Option String
deriving DecidableEq, Inhabited

/-- Read a reference: the method stands behind the first slash. -/
def AuthRef.ofText (s : String) : AuthRef :=
  match splitOnce s '/' with
  | some (credential, method) => ⟨credential, some method⟩
  | none => ⟨s, none⟩

/-- A credential with the method it is obtained by. -/
structure CredentialKey where
  credential : String
  method : String
deriving DecidableEq, Inhabited

/-! ## §2. Values. -/

/-- A credential ready to be carried by a request. -/
structure ResolvedCredential where
  key : CredentialKey
  value : String
  scheme : Option SecurityScheme
deriving DecidableEq, Inhabited

/-- Credentials by the references that a request makes to them. -/
abbrev AuthResult := NameMap ResolvedCredential

/-- The values obtained so far, one for each key. -/
structure CredentialCache where
  entries : List (CredentialKey × String)
deriving Inhabited

namespace CredentialCache

def empty : CredentialCache := ⟨[]⟩

/-- The value kept under a key. -/
def get? (c : CredentialCache) (key : CredentialKey) : Option String :=
  (c.entries.find? (·.1 == key)).map (·.2)

/-- Keep a value under a key. -/
def insert (c : CredentialCache) (key : CredentialKey) (value : String) : CredentialCache :=
  ⟨(key, value) :: c.entries.filter fun e => e.1 != key⟩

/-- The number of keys. -/
def size (c : CredentialCache) : Nat := c.entries.length

def isEmpty (c : CredentialCache) : Bool := c.entries.isEmpty

/-- A value that is kept is found under its own key and under no other. -/
theorem get?_insert (c : CredentialCache) (key other : CredentialKey) (value : String) :
    (c.insert key value).get? other = if other = key then some value else c.get? other := by
  simp only [insert, get?, List.find?_cons]
  by_cases h : other = key
  · simp [h]
  · have h' : (key == other) = false := by simp [Ne.symm h]
    simp only [h', h, if_false]
    rw [List.find?_filter]
    congr 2
    funext e
    by_cases he : e.1 = other <;> simp [he, h]

end CredentialCache

end ApiPlaybook
