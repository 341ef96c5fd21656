import PamMvp.PamCalls
import Mathlib.Data.List.DropRight

/-!
# Connecting to a target over SSH

`connect` opens a socket, negotiates a transport on it, compares the key that
the server presented with the pinned fingerprint and only then authenticates.
Every handler closes what was opened so far and raises an error of this adapter.
SHA-256 is a parameter.
-/
namespace PamMvp.SshConnecting
open InteractionPrograms PythonText DomainModel PamCalls

def base64Alphabet : PyStr :=
  py "ABCDEFGHIJKLMNOPQRSTUVWXYZabcdefghijklmnopqrstuvwxyz0123456789+/"

def sextet (n : ℕ) : CodePoint := base64Alphabet.getD (n % 64) 0

/-- `base64.b64encode(data).decode("ascii")`. -/
def b64encode : Bytes → PyStr
  | a :: b :: c :: rest =>
    let n := a.toNat * 65536 + b.toNat * 256 + c.toNat
    [sextet (n / 262144), sextet (n / 4096), sextet (n / 64), sextet n] ++ b64encode rest
  | [a, b] =>
    let n := (a.toNat * 256 + b.toNat) * 4
    [sextet (n / 4096), sextet (n / 64), sextet n] ++ py "="
  | [a] => [sextet (a.toNat * 16 / 64), sextet (a.toNat * 16)] ++ py "=="
  | [] => []

example : b64encode [77, 97, 110, 255] = py "TWFu/w==" := by decide

def calculateSha256Fingerprint (sha256 : Bytes → Bytes) (keyBlob : Bytes) : HostKeyFingerprint where
  value := py "SHA256:" ++ (b64encode (sha256 keyBlob)).rdropWhile (· ∈ py "=")
  value_prefix := by
    rw [List.isPrefixOf_iff_prefix]
    exact List.prefix_append _ _

def ascii (text : PyStr) : Bool := text.all (·.val < 128)

/-- `hmac.compare_digest` on two strings. -/
def compareDigest (a b : PyStr) : Except PyExn Bool :=
  if ascii a && ascii b then .ok (a = b)
  else .error (raised .typeError
    (py "comparing strings with non-ASCII characters is not supported"))

/-- `SSH_DISABLED_ALGORITHMS`. -/
def sshDisabledAlgorithms : List (PyStr × List PyStr) :=
  [(py "ciphers", [py "aes128-cbc", py "aes192-cbc", py "aes256-cbc", py "3des-cbc"]),
    (py "macs", [py "hmac-sha1", py "hmac-sha1-96", py "hmac-md5", py "hmac-md5-96"]),
    (py "keys", [py "ssh-rsa"]),
    (py "pubkeys", [py "ssh-rsa"])]

/-- The transport and the socket of a `VerifiedSshConnection`. -/
structure VerifiedSshConnection where
  transport : Handle
  socket : Handle

namespace VerifiedSshConnection

/-- `VerifiedSshConnection(transport, connection_socket)`. -/
def new (transport socket : Handle) : Pam VerifiedSshConnection := do
  Prog.modify fun m => { m with connectionClosed := false }
  return ⟨transport, socket⟩

def close (connection : VerifiedSshConnection) : Pam Unit := do
  if (← Prog.memory).connectionClosed then return ()
  else
    Prog.modify fun m => { m with connectionClosed := true }
    Prog.tryFinally (ask (.closeTransport connection.transport))
      (ask (.closeSocket connection.socket))

def openSessionChannel (connection : VerifiedSshConnection) : Pam Handle := do
  if (← Prog.memory).connectionClosed then
    throw (raised .sshConnectionError (py "verified SSH connection is closed"))
  else ask (.openChannel connection.transport)

end VerifiedSshConnection

def verifyPinnedHostKey (sha256 : Bytes → Bytes) (target : Target) (serverKey : Handle) :
    Pam Unit := do
  let keyBlob ← ask (.asbytes serverKey)
  let actual := calculateSha256Fingerprint sha256 keyBlob
  if ← lift (compareDigest actual.value target.expectedHostKey.value) then return ()
  else throw (raised .hostKeyMismatchError (py "SSH host key mismatch for target " ++ target.id))

/-- `try: p except Exception: pass`. -/
def suppressed (p : Pam Unit) : Pam Unit := exceptException p fun _ => return ()

/-- One half of `_close_resources`. -/
def closeIfOpen (close : Handle → Pam Unit) : Option Handle → Pam Unit
  | none => return ()
  | some resource => suppressed (close resource)

/-- Close what was opened; a close that raises does not stop the next one. -/
def closeResources (transport socket : Option Handle) : Pam Unit := do
  closeIfOpen (fun transport => ask (.closeTransport transport)) transport
  closeIfOpen (fun socket => ask (.closeSocket socket)) socket

structure ParamikoSshConnector where
  sha256 : Bytes → Bytes
  connectTimeout : ℚ

namespace ParamikoSshConnector

/-- The first `try` block of `connect`. -/
def createConnection (connector : ParamikoSshConnector) (target : Target) : Pam Handle :=
  exceptWhere (·.cls = .osError)
    (ask (.createConnection target.host target.port connector.connectTimeout))
    fun _ => throw (raised .sshConnectionError
      (py "SSH TCP connection failed for target " ++ target.id))

/-- The second `try` block of `connect`: a transport and the key of its server. -/
def negotiate (connector : ParamikoSshConnector) (target : Target) (socket : Handle) :
    Pam (Handle × Handle) :=
  exceptException
    (do
      let transport ← ask (.newTransport socket sshDisabledAlgorithms)
      Prog.modify fun m => { m with transport := some transport }
      ask (.startClient transport connector.connectTimeout)
      let serverKey ← ask (.getRemoteServerKey transport)
      return (transport, serverKey))
    fun _ => do
      closeResources (← Prog.memory).transport (some socket)
      throw (raised .sshConnectionError (py "SSH negotiation failed for target " ++ target.id))

/-- `try: p` with two handlers: the first lets an error of class `cls` go on, the
second replaces every other one by `error`. Both close the connection. -/
def closingOnError {α : Type} (transport socket : Handle) (cls : ExnClass) (error : PyExn)
    (p : Pam α) : Pam α :=
  exceptException p fun e => do
    closeResources (some transport) (some socket)
    throw (if e.cls = cls then e else error)

/-- `_authenticate`. -/
def authenticate (transport : Handle) (account : PrivilegedAccount)
    (credential : BrokerCredential) : Pam Unit := do
  match decodeUtf8 credential.value with
  | none => throw (raised .sshAuthenticationError (py "SSH credential encoding is invalid"))
  | some password =>
    exceptWhere (fun e => e.cls = .osError ∨ e.cls = .sshException)
      (ask (.authPassword transport account.username password))
      fun _ => throw (raised .sshAuthenticationError (py "SSH authentication failed"))
    if ← ask (.isAuthenticated transport) then return ()
    else throw (raised .sshAuthenticationError (py "SSH authentication failed"))

def connect (connector : ParamikoSshConnector) (target : Target) (account : PrivilegedAccount)
    (credential : BrokerCredential) : Pam VerifiedSshConnection := do
  Prog.modify fun m => { m with transport := none }
  let socket ← connector.createConnection target
  let (transport, serverKey) ← connector.negotiate target socket
  closingOnError transport socket .hostKeyMismatchError
    (raised .sshConnectionError (py "SSH host key verification failed for target " ++ target.id))
    (verifyPinnedHostKey connector.sha256 target serverKey)
  closingOnError transport socket .sshAuthenticationError
    (raised .sshAuthenticationError (py "SSH authentication failed"))
    (authenticate transport account credential)
  VerifiedSshConnection.new transport socket

end ParamikoSshConnector

end PamMvp.SshConnecting
