import PamMvp.BinaryRounding
import PamMvp.SshConnecting

/-!
# Brokered SSH sessions

The interactive channel, the terminal relay and the session broker built from
them. Times are the values of `float`s, so every sum and difference is rounded.
`fuel` bounds the number of iterations of the relay loop; a run that needs more is
cut off and has no outcome.
-/
namespace PamMvp.BrokeredSessions
open InteractionPrograms BinaryRounding PythonText DomainModel PamCalls SshConnecting

/-- The raw channel of an `InteractiveSshChannel`. -/
structure InteractiveSshChannel where
  channel : Handle

namespace InteractiveSshChannel

/-- `InteractiveSshChannel(channel)`. -/
def new (channel : Handle) : Pam InteractiveSshChannel := do
  Prog.modify fun m => { m with channelClosed := false }
  return ⟨channel⟩

/-- A request on a channel that is not wrapped yet; a failure closes it. -/
def requestOrClose (channel : Handle) (request : Pam Unit) (message : PyStr) : Pam Unit :=
  exceptException request fun _ => do
    suppressed (ask (.closeChannel channel))
    throw (raised .sshChannelError message)

def «open» (connection : VerifiedSshConnection) : Pam InteractiveSshChannel := do
  let channel ← exceptException connection.openSessionChannel fun _ =>
    throw (raised .sshChannelError (py "SSH session channel could not be opened"))
  requestOrClose channel (ask (.getPty channel (py "xterm") 80 24)) (py "SSH PTY request failed")
  requestOrClose channel (ask (.invokeShell channel)) (py "SSH shell request failed")
  new channel

def isClosed (self : InteractiveSshChannel) : Pam Bool := do
  if (← Prog.memory).channelClosed then return true
  else ask (.channelClosed self.channel)

def send (self : InteractiveSshChannel) (data : Bytes) : Pam Unit :=
  ask (.sendall self.channel data)

def receive (self : InteractiveSshChannel) (maxBytes : ℕ) : Pam Bytes :=
  ask (.recv self.channel maxBytes)

def close (self : InteractiveSshChannel) : Pam Unit := do
  if (← Prog.memory).channelClosed then return ()
  else
    Prog.modify fun m => { m with channelClosed := true }
    ask (.closeChannel self.channel)

end InteractiveSshChannel

/-- The branch of the loop for a readable channel; `true` is the remote end. -/
def relayRemote (channel : InteractiveSshChannel) (terminal : TerminalIO) (maxBytes : ℕ) :
    Bool → Pam Bool
  | false => return false
  | true => do
    let remoteData ← channel.receive maxBytes
    if remoteData = [] then return true
    else
      terminal.writeOutput remoteData
      return false

/-- The branch of the loop for a readable terminal; `true` is the local end. -/
def relayLocal (channel : InteractiveSshChannel) (terminal : TerminalIO) (maxBytes : ℕ) :
    Bool → Pam Bool
  | false => return false
  | true => do
    let localData ← terminal.readInput maxBytes
    if localData = [] then return true
    else
      channel.send localData
      return false

/-- The `while` loop of `relay_terminal`. -/
def relayLoop (channel : InteractiveSshChannel) (terminal : TerminalIO) (deadline : ℚ)
    (maxBytes : ℕ) : ℕ → Pam RelayOutcome
  | 0 => Prog.diverge (S := pamSignature)
  | fuel + 1 => do
    if ← channel.isClosed then return .completed
    else
      let remaining := double (deadline - (← ask .monotonic))
      if remaining ≤ 0 then return .maxDurationExceeded
      else
        let readable ← ask (.select remaining)
        if deadline ≤ (← ask .monotonic) then return .maxDurationExceeded
        -- an empty ready set passes both branches and continues
        else if ← relayRemote channel terminal maxBytes readable.channel then return .completed
        else if ← relayLocal channel terminal maxBytes readable.terminal then return .completed
        else relayLoop channel terminal deadline maxBytes fuel

/-- `max_duration.total_seconds()`. -/
def totalSeconds (maxDuration : ℤ) : ℚ := double (maxDuration / 1000000)

/-- `monotonic() + max_duration.total_seconds()`. -/
def deadlineFrom (start : ℚ) (maxDuration : ℤ) : ℚ := double (start + totalSeconds maxDuration)

def relayTerminal (fuel : ℕ) (channel : InteractiveSshChannel) (terminal : TerminalIO)
    (maxDuration : ℤ) (maxBytes : ℕ := 32768) : Pam RelayOutcome := do
  if maxDuration ≤ 0 then throw (raised .valueError (py "max_duration must be positive"))
  else
    let deadline := deadlineFrom (← ask .monotonic) maxDuration
    Prog.tryFinally
      (exceptException (relayLoop channel terminal deadline maxBytes fuel)
        fun _ => throw (raised .sshChannelError (py "interactive terminal relay failed")))
      channel.close

structure ParamikoBrokeredSession where
  connection : VerifiedSshConnection
  channel : InteractiveSshChannel

namespace ParamikoBrokeredSession

/-- `ParamikoBrokeredSession(connection, channel)`. -/
def new (connection : VerifiedSshConnection) (channel : InteractiveSshChannel) :
    Pam ParamikoBrokeredSession := do
  Prog.modify fun m => { m with brokeredClosed := false }
  return ⟨connection, channel⟩

def relay (fuel : ℕ) (self : ParamikoBrokeredSession) (terminal : TerminalIO) (maxDuration : ℤ) :
    Pam (Option RelayOutcome) := do
  if (← Prog.memory).brokeredClosed then
    throw (raised .sshChannelError (py "brokered SSH session is closed"))
  else return some (← relayTerminal fuel self.channel terminal maxDuration)

def close (self : ParamikoBrokeredSession) : Pam Unit := do
  if (← Prog.memory).brokeredClosed then return ()
  else
    Prog.modify fun m => { m with brokeredClosed := true }
    Prog.tryFinally self.channel.close self.connection.close

end ParamikoBrokeredSession

/-- `ParamikoSessionBroker.open_session`. -/
def openSession (connector : ParamikoSshConnector) (target : Target)
    (privilegedAccount : PrivilegedAccount) (credential : BrokerCredential) :
    Pam ParamikoBrokeredSession := do
  let connection ← connector.connect target privilegedAccount credential
  let channel ← exceptException (InteractiveSshChannel.open connection) fun e => do
    suppressed connection.close
    throw e
  ParamikoBrokeredSession.new connection channel

/-- `ParamikoSessionBroker`. -/
def paramikoBroker (connector : ParamikoSshConnector) (fuel : ℕ) : SessionBroker where
  Brokered := ParamikoBrokeredSession
  openSession := openSession connector
  relay := ParamikoBrokeredSession.relay fuel
  close := ParamikoBrokeredSession.close

end PamMvp.BrokeredSessions
