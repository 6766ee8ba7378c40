namespace Attestor

inductive KeyRingError where
  | noSigner (name : String)
  | noSigningKey (keyId : String)
  | parseKey (name : String)
  | sign (keyId : String)
  | verify
  | readSecrets
  | malformedSecrets
deriving DecidableEq, Repr

namespace KeyRingError

def message : KeyRingError → String
  | noSigner name => s!"no signer provisioned for check `{name}`"
  | noSigningKey keyId => s!"key {keyId} has no usable secret signing key"
  | parseKey name => s!"parse OpenPGP key for `{name}` failed"
  | sign keyId => s!"sign with key {keyId} failed"
  | verify => "signature verification failed"
  | readSecrets => "read secrets failed"
  | malformedSecrets => "malformed secrets document"

end KeyRingError

end Attestor
