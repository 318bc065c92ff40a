/-
The key blobs of dpki (`dpki/src/key_blob.rs`): a seed, a key bundle, a signing or an
encrypting key pair is written into a buffer, encrypted with a passphrase and kept as a
`KeyBlob`; `from_blob` decrypts the buffer and reads the keys back.

The HCID codecs (`CODEC_HCS0`, `CODEC_HCK0`, of the hcid crate) and the passphrase
encryption of `utils.rs` (libsodium's password hash and AEAD, with JSON and base64) are
parameters. A `SecBuf` is its bytes; its length is fixed when it is made, and the bytes
`with_secure` and `with_insecure` start with are taken as zeros, since nothing here reads a
byte that was not written. The sizes are lib3h_sodium's (libsodium's `crypto_sign_*` and
`crypto_kx_*` constants). The outer `Except` is a panic, the inner one the source's
`HcResult`.

`as_blob` of a signing and of an encrypting key pair differ only in their constants and
texts, and so do their `from_blob`s: each pair is one definition, `keyPairAsBlob` and
`keyPairFromBlob`, over the key pair's `KeyPairBlobFormat`.
-/
import Holochain.CoreTypes.Error
import Holochain.Lib.ByteBuf

namespace Holochain.Dpki

/-! ### Sizes and buffers -/

/-- `SEED_SIZE`. -/
def seedSize : Nat := 32

/-- `sign::PUBLICKEYBYTES`. -/
def signPublicKeyBytes : Nat := 32

/-- `sign::SECRETKEYBYTES`. -/
def signSecretKeyBytes : Nat := 64

/-- `kx::PUBLICKEYBYTES`. -/
def kxPublicKeyBytes : Nat := 32

/-- `kx::SECRETKEYBYTES`. -/
def kxSecretKeyBytes : Nat := 32

/-- `SecBuf`: its bytes. -/
abbrev SecBuf := List UInt8

/-- `SecBuf::with_secure`: a buffer of `size` bytes. -/
def SecBuf.withSecure (size : Nat) : SecBuf := List.replicate size 0

/-- `SecBuf::with_insecure`: a buffer of `size` bytes. -/
def SecBuf.withInsecure (size : Nat) : SecBuf := List.replicate size 0

/-- `SecBuf::write`: `data` at `offset`, when it fits. The error is lib3h_sodium's
`CryptoError`, whose text is not in the repository. -/
def SecBuf.write (buf : SecBuf) (offset : Nat) (data : List UInt8) :
    Except HolochainError SecBuf :=
  match ByteBuf.write buf offset data with
  | some buf => pure buf
  | none => throw (.cryptoError "WriteOverflow")

/-- `assert_eq!(left, right)`. -/
def assertEq (left right : Nat) : Except String Unit :=
  if left = right then pure ()
  else throw s!"assertion failed: \x60(left == right)\x60\n  left: \x60{left}\x60,\n right: \x60{right}\x60"

/-- `Result::expect`; `Result::unwrap` is `expect` with its own text. The error's debug
text, which ends the panic message, is left out. -/
def resultExpect {ε α : Type} (r : Except ε α) (msg : String) : Except String α :=
  match r with
  | .ok a => pure a
  | .error _ => throw msg

/-- What `Result::unwrap` panics with. -/
def unwrapMsg : String := "called \x60Result::unwrap()\x60 on an \x60Err\x60 value"

/-- `buf[i]` of a byte slice. -/
def index (buf : SecBuf) (i : Nat) : Except String UInt8 :=
  let len := buf.length
  match buf[i]? with
  | some b => pure b
  | none => throw s!"index out of bounds: the len is {len} but the index is {i}"

/-- `&buf[start..stop]`. -/
def sliceRange (buf : SecBuf) (start stop : Nat) : Except String SecBuf :=
  let len := buf.length
  match ByteBuf.slice buf start stop with
  | some s => pure s
  | none =>
    if stop < start then throw s!"slice index starts at {start} but ends at {stop}"
    else throw s!"index {stop} out of range for slice of length {len}"

/-! ### HCID and the passphrase encryption -/

/-- `HcidEncoding`: `encode` of a key's bytes into base32 text, `decode` back; an
`HcidError` is kept as its debug text. -/
structure HcidEncoding where
  encode : List UInt8 → Except String String
  decode : String → Except String (List UInt8)

namespace Utils

/-- `utils::encode_pub_key`: the HCID text of the buffer's first `SEED_SIZE` bytes; an
`HcidError` becomes an `ErrorGeneric` of its debug text. -/
def encodePubKey (pubKeySec : SecBuf) (codec : HcidEncoding) :
    Except String (Except HolochainError String) := do
  let key ← sliceRange pubKeySec 0 seedSize
  return (codec.encode key).mapError .errorGeneric

end Utils

namespace KeyPair

variable (codec : HcidEncoding)

/-- `KeyPair::encode_pub_key`, with `Self::codec()`. -/
def encodePubKey (pubKeySec : SecBuf) : Except String String := do
  match ← Utils.encodePubKey pubKeySec codec with
  | .ok publicKey => pure publicKey
  | .error _ => throw "Public key encoding failed."

/-- `KeyPair::decode_pub_key`, with `Self::codec()`. -/
def decodePubKey (publicKey : String) : Except String (List UInt8) :=
  match codec.decode publicKey with
  | .ok key => pure key
  | .error _ => throw "Public key decoding failed. Key was not properly encoded."

end KeyPair

/-- `PwHashConfig`: the password hash's operations and memory limits and its algorithm. -/
structure PwHashConfig where
  opsLimit : Nat
  memLimit : Nat
  pwHashAlgo : Int
  deriving DecidableEq, Repr

/-- The passphrase encryption of `utils.rs`: `encrypt_with_passphrase_buf` (`pw_enc`, then
JSON and base64; its `expect` on the JSON never fires), and what the base64 and JSON decoding
and `pw_dec` of `decrypt_with_passphrase_buf` leave in a buffer of the given size. -/
structure PassphraseCipher where
  encryptWithPassphraseBuf : SecBuf → SecBuf → Option PwHashConfig → Except HolochainError String
  pwDec : String → SecBuf → Option PwHashConfig → Nat → Except HolochainError SecBuf

/-- `utils::decrypt_with_passphrase_buf`. -/
def PassphraseCipher.decryptWithPassphraseBuf (cipher : PassphraseCipher) (blob : String)
    (passphrase : SecBuf) (config : Option PwHashConfig) (size : Nat) :
    Except HolochainError SecBuf := do
  let decryptedData ← cipher.pwDec blob passphrase config size
  if decryptedData.length ≠ size then throw (.errorGeneric "Invalid Blob size")
  pure decryptedData

/-! ### The blobs -/

/-- `BlobType`. -/
inductive BlobType
  | seed
  | keyBundle
  | signingKey
  | encryptingKey
  deriving DecidableEq, Repr

/-- `SeedType`. -/
inductive SeedType
  | root
  | revocation
  | device
  | devicePin
  | dna
  | oneShot
  | mock
  deriving DecidableEq, Repr

/-- `KeyBlob`. -/
structure KeyBlob where
  blobType : BlobType
  seedType : SeedType
  hint : String
  data : String
  deriving DecidableEq, Repr

/-- `Seed`. -/
structure Seed where
  kind : SeedType
  buf : SecBuf
  deriving DecidableEq, Repr

/-- `SigningKeyPair`: the HCID text of the public key (the source's `public`) and the
private key (`private`). -/
structure SigningKeyPair where
  publicKey : String
  privateKey : SecBuf
  deriving DecidableEq, Repr

/-- `EncryptingKeyPair`. -/
structure EncryptingKeyPair where
  publicKey : String
  privateKey : SecBuf
  deriving DecidableEq, Repr

/-- `KeyBundle`. -/
structure KeyBundle where
  signKeys : SigningKeyPair
  encKeys : EncryptingKeyPair
  deriving DecidableEq, Repr

/-- `Seed::new`: the buffer must hold `SEED_SIZE` bytes. -/
def Seed.new (seedBuf : SecBuf) (seedType : SeedType) : Except String Seed := do
  assertEq seedBuf.length seedSize
  pure ⟨seedType, seedBuf⟩

/-- `SigningKeyPair::new`. -/
def SigningKeyPair.new (publicKey : String) (privateKey : SecBuf) : SigningKeyPair :=
  ⟨publicKey, privateKey⟩

/-- `EncryptingKeyPair::new`. -/
def EncryptingKeyPair.new (publicKey : String) (privateKey : SecBuf) : EncryptingKeyPair :=
  ⟨publicKey, privateKey⟩

section Blobbable

variable (cipher : PassphraseCipher)

/-- `Blobbable::finalize_blobbing`, of a type whose blobs have `blobSize` bytes. -/
def finalizeBlobbing (blobSize : Nat) (dataBuf passphrase : SecBuf)
    (config : Option PwHashConfig) : Except HolochainError String :=
  if dataBuf.length ≠ blobSize then throw (.errorGeneric "Invalid buf size for Blobbing")
  else cipher.encryptWithPassphraseBuf dataBuf passphrase config

/-- `Blobbable::unblob`, of a type of the given blob type and size. -/
def unblob (blobType : BlobType) (blobSize : Nat) (blob : KeyBlob) (passphrase : SecBuf)
    (config : Option PwHashConfig) : Except HolochainError SecBuf :=
  if blob.blobType ≠ blobType then throw (.errorGeneric "Blob type mismatch while unblobbing")
  else cipher.decryptWithPassphraseBuf blob.data passphrase config blobSize

/-! #### Seed -/

/-- `Seed::as_blob`: the seed's buffer, encrypted as it is. -/
def Seed.asBlob (self : Seed) (passphrase : SecBuf) (hint : String)
    (config : Option PwHashConfig) : Except HolochainError KeyBlob := do
  let encodedBlob ← finalizeBlobbing cipher seedSize self.buf passphrase config
  pure ⟨.seed, self.kind, hint, encodedBlob⟩

/-- `Seed::from_blob`: the decrypted buffer, with the blob's seed type. -/
def Seed.fromBlob (blob : KeyBlob) (passphrase : SecBuf) (config : Option PwHashConfig) :
    Except String (Except HolochainError Seed) :=
  match unblob cipher .seed seedSize blob passphrase config with
  | .error e => pure (.error e)
  | .ok seedBuf => .ok <$> Seed.new seedBuf blob.seedType

/-! #### KeyBundle -/

/-- `KEYBUNDLE_BLOB_FORMAT_VERSION`. -/
def keybundleBlobFormatVersion : UInt8 := 2

/-- `KEYBUNDLE_BLOB_SIZE`. -/
def keybundleBlobSize : Nat :=
  1 + signPublicKeyBytes + kxPublicKeyBytes + signSecretKeyBytes + kxSecretKeyBytes

/-- `KEYBUNDLE_BLOB_SIZE_ALIGNED`. -/
def keybundleBlobSizeAligned : Nat := ((keybundleBlobSize + 8 - 1) / 8) * 8

variable (codecHcs0 codecHck0 : HcidEncoding)

/-- `KeyBundle::as_blob`: the version, the two public keys HCID-decoded and the two private
keys, at running offsets, then encrypted. -/
def KeyBundle.asBlob (self : KeyBundle) (passphrase : SecBuf) (hint : String)
    (config : Option PwHashConfig) : Except String (Except HolochainError KeyBlob) := do
  let dataBuf := SecBuf.withSecure keybundleBlobSizeAligned
  let mut offset : Nat := 0
  let dataBuf ← resultExpect (SecBuf.write dataBuf 0 [keybundleBlobFormatVersion]) unwrapMsg
  offset := offset + 1
  let key ← KeyPair.decodePubKey codecHcs0 self.signKeys.publicKey
  assertEq signPublicKeyBytes key.length
  let dataBuf ← resultExpect (SecBuf.write dataBuf offset key)
    "Failed blobbing public signing key"
  offset := offset + signPublicKeyBytes
  let key ← KeyPair.decodePubKey codecHck0 self.encKeys.publicKey
  assertEq kxPublicKeyBytes key.length
  let dataBuf ← resultExpect (SecBuf.write dataBuf offset key)
    "Failed blobbing public encoding key"
  offset := offset + kxPublicKeyBytes
  let dataBuf ← resultExpect (SecBuf.write dataBuf offset self.signKeys.privateKey)
    "Failed blobbing private signing key"
  offset := offset + signSecretKeyBytes
  let dataBuf ← resultExpect (SecBuf.write dataBuf offset self.encKeys.privateKey)
    "Failed blobbing private encoding key"
  offset := offset + kxSecretKeyBytes
  assertEq offset keybundleBlobSize
  return (finalizeBlobbing cipher keybundleBlobSizeAligned dataBuf passphrase config).map
    fun encodedBlob => ⟨.keyBundle, .mock, hint, encodedBlob⟩

/-- `KeyBundle::from_blob`: the version checked, and the keys read back from the slices the
source hard-codes. -/
def KeyBundle.fromBlob (blob : KeyBlob) (passphrase : SecBuf) (config : Option PwHashConfig) :
    Except String (Except HolochainError KeyBundle) := do
  match unblob cipher .keyBundle keybundleBlobSizeAligned blob passphrase config with
  | .error e => return .error e
  | .ok keybundleBlob =>
  let pubSign := SecBuf.withInsecure signPublicKeyBytes
  let pubEnc := SecBuf.withInsecure kxPublicKeyBytes
  let privSign := SecBuf.withSecure signSecretKeyBytes
  let privEnc := SecBuf.withSecure kxSecretKeyBytes
  let version ← index keybundleBlob 0
  let expected := keybundleBlobFormatVersion
  if version ≠ expected then
    return .error (.errorGeneric s!"Invalid KeyBundle Blob Format: v{version} != v{expected}")
  match SecBuf.write pubSign 0 (← sliceRange keybundleBlob 1 33) with
  | .error e => return .error e
  | .ok pubSign =>
  match SecBuf.write pubEnc 0 (← sliceRange keybundleBlob 33 65) with
  | .error e => return .error e
  | .ok pubEnc =>
  match SecBuf.write privSign 0 (← sliceRange keybundleBlob 65 129) with
  | .error e => return .error e
  | .ok privSign =>
  match SecBuf.write privEnc 0 (← sliceRange keybundleBlob 129 161) with
  | .error e => return .error e
  | .ok privEnc =>
  let signPublic ← KeyPair.encodePubKey codecHcs0 pubSign
  let encPublic ← KeyPair.encodePubKey codecHck0 pubEnc
  return .ok ⟨SigningKeyPair.new signPublic privSign, EncryptingKeyPair.new encPublic privEnc⟩

/-! #### The key pairs -/

/-- What the blob of one kind of key pair is made of: its type, format version and aligned
size, the sizes of its keys, the names and texts of its panics and errors, and the bounds
`from_blob` slices the keys at. -/
structure KeyPairBlobFormat where
  blobType : BlobType
  version : UInt8
  blobSizeAligned : Nat
  publicKeyBytes : Nat
  secretKeyBytes : Nat
  name : String
  publicMsg : String
  privateMsg : String
  publicStart : Nat
  publicStop : Nat
  privateStart : Nat
  privateStop : Nat

variable (codec : HcidEncoding) (fmt : KeyPairBlobFormat)

/-- The `as_blob` of a key pair: the version, the public key HCID-decoded and the private
key, at running offsets, then encrypted. The source's last `offset +=` is never read. -/
def keyPairAsBlob (publicKey : String) (privateKey : SecBuf) (passphrase : SecBuf)
    (hint : String) (config : Option PwHashConfig) :
    Except String (Except HolochainError KeyBlob) := do
  let dataBuf := SecBuf.withSecure fmt.blobSizeAligned
  let mut offset : Nat := 0
  let dataBuf ← resultExpect (SecBuf.write dataBuf 0 [fmt.version]) unwrapMsg
  offset := offset + 1
  let key ← KeyPair.decodePubKey codec publicKey
  assertEq fmt.publicKeyBytes key.length
  let dataBuf ← resultExpect (SecBuf.write dataBuf offset key) fmt.publicMsg
  offset := offset + fmt.publicKeyBytes
  let dataBuf ← resultExpect (SecBuf.write dataBuf offset privateKey) fmt.privateMsg
  return (finalizeBlobbing cipher fmt.blobSizeAligned dataBuf passphrase config).map
    fun encodedBlob => ⟨fmt.blobType, .mock, hint, encodedBlob⟩

/-- The `from_blob` of a key pair, built by `new` from the public key's HCID text and the
private key. -/
def keyPairFromBlob {κ : Type} (new : String → SecBuf → κ) (blob : KeyBlob)
    (passphrase : SecBuf) (config : Option PwHashConfig) :
    Except String (Except HolochainError κ) := do
  match unblob cipher fmt.blobType fmt.blobSizeAligned blob passphrase config with
  | .error e => return .error e
  | .ok keybundleBlob =>
  let pubSign := SecBuf.withInsecure fmt.publicKeyBytes
  let privSign := SecBuf.withSecure fmt.secretKeyBytes
  let version ← index keybundleBlob 0
  let name := fmt.name
  let expected := fmt.version
  if version ≠ expected then
    return .error (.errorGeneric s!"Invalid {name} Blob Format: v{version} != v{expected}")
  match SecBuf.write pubSign 0 (← sliceRange keybundleBlob fmt.publicStart fmt.publicStop) with
  | .error e => return .error e
  | .ok pubSign =>
  match SecBuf.write privSign 0
      (← sliceRange keybundleBlob fmt.privateStart fmt.privateStop) with
  | .error e => return .error e
  | .ok privSign =>
  return .ok (new (← KeyPair.encodePubKey codec pubSign) privSign)

/-- `SIGNING_KEY_BLOB_FORMAT_VERSION`. -/
def signingKeyBlobFormatVersion : UInt8 := 1

/-- `SIGNING_KEY_BLOB_SIZE`. -/
def signingKeyBlobSize : Nat := 1 + signPublicKeyBytes + signSecretKeyBytes

/-- `SIGNING_KEY_BLOB_SIZE_ALIGNED`. -/
def signingKeyBlobSizeAligned : Nat := ((signingKeyBlobSize + 8 - 1) / 8) * 8

/-- The blob of a `SigningKeyPair`, read back from `[1..33]` and `[33..97]`. -/
def signingKeyBlobFormat : KeyPairBlobFormat where
  blobType := .signingKey
  version := signingKeyBlobFormatVersion
  blobSizeAligned := signingKeyBlobSizeAligned
  publicKeyBytes := signPublicKeyBytes
  secretKeyBytes := signSecretKeyBytes
  name := "SigningKey"
  publicMsg := "Failed blobbing public signing key"
  privateMsg := "Failed blobbing private signing key"
  publicStart := 1
  publicStop := 33
  privateStart := 33
  privateStop := 97

/-- `SigningKeyPair::as_blob`. -/
def SigningKeyPair.asBlob (self : SigningKeyPair) (passphrase : SecBuf) (hint : String)
    (config : Option PwHashConfig) : Except String (Except HolochainError KeyBlob) :=
  keyPairAsBlob cipher codecHcs0 signingKeyBlobFormat self.publicKey self.privateKey passphrase
    hint config

/-- `SigningKeyPair::from_blob`. -/
def SigningKeyPair.fromBlob (blob : KeyBlob) (passphrase : SecBuf)
    (config : Option PwHashConfig) : Except String (Except HolochainError SigningKeyPair) :=
  keyPairFromBlob cipher codecHcs0 signingKeyBlobFormat SigningKeyPair.new blob passphrase config

/-- `ENCRYPTING_KEY_BLOB_FORMAT_VERSION`. -/
def encryptingKeyBlobFormatVersion : UInt8 := 1

/-- `ENCRYPTING_KEY_BLOB_SIZE`. -/
def encryptingKeyBlobSize : Nat := 1 + kxPublicKeyBytes + kxSecretKeyBytes

/-- `ENCRYPTING_KEY_BLOB_SIZE_ALIGNED`. -/
def encryptingKeyBlobSizeAligned : Nat := ((encryptingKeyBlobSize + 8 - 1) / 8) * 8

/-- The blob of an `EncryptingKeyPair`, read back from `[1..33]` and `[33..65]`. -/
def encryptingKeyBlobFormat : KeyPairBlobFormat where
  blobType := .encryptingKey
  version := encryptingKeyBlobFormatVersion
  blobSizeAligned := encryptingKeyBlobSizeAligned
  publicKeyBytes := kxPublicKeyBytes
  secretKeyBytes := kxSecretKeyBytes
  name := "EncryptingKey"
  publicMsg := "Failed blobbing public encrypting key"
  privateMsg := "Failed blobbing private ecrypting key"
  publicStart := 1
  publicStop := 33
  privateStart := 33
  privateStop := 65

/-- `EncryptingKeyPair::as_blob`. -/
def EncryptingKeyPair.asBlob (self : EncryptingKeyPair) (passphrase : SecBuf) (hint : String)
    (config : Option PwHashConfig) : Except String (Except HolochainError KeyBlob) :=
  keyPairAsBlob cipher codecHck0 encryptingKeyBlobFormat self.publicKey self.privateKey
    passphrase hint config

/-- `EncryptingKeyPair::from_blob`. -/
def EncryptingKeyPair.fromBlob (blob : KeyBlob) (passphrase : SecBuf)
    (config : Option PwHashConfig) : Except String (Except HolochainError EncryptingKeyPair) :=
  keyPairFromBlob cipher codecHck0 encryptingKeyBlobFormat EncryptingKeyPair.new blob passphrase
    config

end Blobbable

end Holochain.Dpki
