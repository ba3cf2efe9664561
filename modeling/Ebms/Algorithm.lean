import Ebms.Enumeration

/-!
# Versions and algorithms

The catalogue of SOAP and WS-Security versions and of the signature, digest and encryption
algorithms that an agreement can name. Only the identifiers are held here. An identifier is read
exactly as it is written, case included.
-/

namespace Ebms

/-- The version of a SOAP envelope. -/
inductive SoapVersion where
  | soap11
  | soap12
  deriving DecidableEq, Repr

/-- Version 1.2 is the one that AS4 mandates. -/
instance : Inhabited SoapVersion :=
  ⟨.soap12⟩

namespace SoapVersion

/-- The identifier of a version. -/
def identifier : SoapVersion → String
  | .soap11 => "1.1"
  | .soap12 => "1.2"

/-- The namespace of the envelope of a version. -/
def envelopeNamespace : SoapVersion → String
  | .soap11 => "http://schemas.xmlsoap.org/soap/envelope/"
  | .soap12 => "http://www.w3.org/2003/05/soap-envelope"

instance : Spelled SoapVersion where
  all := [.soap11, .soap12]
  name
    | .soap11 => "soap11"
    | .soap12 => "soap12"
  kind := "SOAP version"
  text := identifier
  spells version s := version.identifier == s

end SoapVersion

/-- The version of WS-Security. -/
inductive WssVersion where
  | wss10
  | wss11
  | wss111
  deriving DecidableEq, Repr

namespace WssVersion

/-- The identifier of a version. -/
def identifier : WssVersion → String
  | .wss10 => "1.0"
  | .wss11 => "1.1"
  | .wss111 => "1.1.1"

instance : Spelled WssVersion where
  all := [.wss10, .wss11, .wss111]
  name
    | .wss10 => "wss10"
    | .wss11 => "wss11"
    | .wss111 => "wss111"
  kind := "WSS version"
  text := identifier
  spells version s := version.identifier == s

end WssVersion

/-- An algorithm for XML signatures. -/
inductive SignatureAlgorithm where
  | rsaSha256
  | rsaSha384
  | rsaSha512
  | ecdsaSha256
  | ecdsaSha384
  | ecdsaSha512
  | ed25519
  deriving DecidableEq, Repr

namespace SignatureAlgorithm

/-- The identifier of an algorithm. -/
def identifier : SignatureAlgorithm → String
  | .rsaSha256 => "http://www.w3.org/2001/04/xmldsig-more#rsa-sha256"
  | .rsaSha384 => "http://www.w3.org/2001/04/xmldsig-more#rsa-sha384"
  | .rsaSha512 => "http://www.w3.org/2001/04/xmldsig-more#rsa-sha512"
  | .ecdsaSha256 => "http://www.w3.org/2001/04/xmldsig-more#ecdsa-sha256"
  | .ecdsaSha384 => "http://www.w3.org/2001/04/xmldsig-more#ecdsa-sha384"
  | .ecdsaSha512 => "http://www.w3.org/2001/04/xmldsig-more#ecdsa-sha512"
  | .ed25519 => "http://www.w3.org/2021/04/xmldsig-more#eddsa-ed25519"

instance : Spelled SignatureAlgorithm where
  all := [.rsaSha256, .rsaSha384, .rsaSha512, .ecdsaSha256, .ecdsaSha384, .ecdsaSha512, .ed25519]
  name
    | .rsaSha256 => "rsa_sha256"
    | .rsaSha384 => "rsa_sha384"
    | .rsaSha512 => "rsa_sha512"
    | .ecdsaSha256 => "ecdsa_sha256"
    | .ecdsaSha384 => "ecdsa_sha384"
    | .ecdsaSha512 => "ecdsa_sha512"
    | .ed25519 => "ed25519"
  kind := "signature algorithm"
  text := identifier
  spells algorithm s := algorithm.identifier == s

end SignatureAlgorithm

/-- An algorithm for the digests of a signature. -/
inductive DigestAlgorithm where
  | sha256
  | sha384
  | sha512
  deriving DecidableEq, Repr

namespace DigestAlgorithm

/-- The identifier of an algorithm. -/
def identifier : DigestAlgorithm → String
  | .sha256 => "http://www.w3.org/2001/04/xmlenc#sha256"
  | .sha384 => "http://www.w3.org/2001/04/xmldsig-more#sha384"
  | .sha512 => "http://www.w3.org/2001/04/xmlenc#sha512"

instance : Spelled DigestAlgorithm where
  all := [.sha256, .sha384, .sha512]
  name
    | .sha256 => "sha256"
    | .sha384 => "sha384"
    | .sha512 => "sha512"
  kind := "digest algorithm"
  text := identifier
  spells algorithm s := algorithm.identifier == s

end DigestAlgorithm

/-- An algorithm for the encryption of content. -/
inductive EncryptionAlgorithm where
  | aes128Cbc
  | aes192Cbc
  | aes256Cbc
  | aes128Gcm
  | aes192Gcm
  | aes256Gcm
  | tripleDesCbc
  deriving DecidableEq, Repr

namespace EncryptionAlgorithm

/-- The identifier of an algorithm. -/
def identifier : EncryptionAlgorithm → String
  | .aes128Cbc => "http://www.w3.org/2001/04/xmlenc#aes128-cbc"
  | .aes192Cbc => "http://www.w3.org/2001/04/xmlenc#aes192-cbc"
  | .aes256Cbc => "http://www.w3.org/2001/04/xmlenc#aes256-cbc"
  | .aes128Gcm => "http://www.w3.org/2009/xmlenc11#aes128-gcm"
  | .aes192Gcm => "http://www.w3.org/2009/xmlenc11#aes192-gcm"
  | .aes256Gcm => "http://www.w3.org/2009/xmlenc11#aes256-gcm"
  | .tripleDesCbc => "http://www.w3.org/2001/04/xmlenc#tripledes-cbc"

/-- The number of bits in a key. -/
def keyBits : EncryptionAlgorithm → UInt32
  | .aes128Cbc | .aes128Gcm => 128
  | .aes192Cbc | .aes192Gcm | .tripleDesCbc => 192
  | .aes256Cbc | .aes256Gcm => 256

instance : Spelled EncryptionAlgorithm where
  all := [.aes128Cbc, .aes192Cbc, .aes256Cbc, .aes128Gcm, .aes192Gcm, .aes256Gcm, .tripleDesCbc]
  name
    | .aes128Cbc => "aes128_cbc"
    | .aes192Cbc => "aes192_cbc"
    | .aes256Cbc => "aes256_cbc"
    | .aes128Gcm => "aes128_gcm"
    | .aes192Gcm => "aes192_gcm"
    | .aes256Gcm => "aes256_gcm"
    | .tripleDesCbc => "triple_des_cbc"
  kind := "encryption algorithm"
  text := identifier
  spells algorithm s := algorithm.identifier == s

end EncryptionAlgorithm

end Ebms
