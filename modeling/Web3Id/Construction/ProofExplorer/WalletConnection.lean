/-
This file is the connection of the proof explorer to mobile wallets.
-/

namespace Web3Id.ProofExplorer

def CHAIN_ID : String := "ccd:4221332d34e1694168c2a0c0b3fd0f27"

def CHAIN_ID_OLD : String := "ccd:testnet"

def WALLET_CONNECT_SESSION_NAMESPACE : String := "ccd"

/-- The accounts of each namespace of a session. -/
structure Namespaces where
  accounts : List (String × List String)
  deriving DecidableEq, Repr

/-- The account is the third part of the first account, and reading a missing one throws. -/
def getAccount (ns : Namespaces) : Except Unit (Option String) := do
  let some accounts := ns.accounts.lookup WALLET_CONNECT_SESSION_NAMESPACE | throw ()
  let some first := accounts.head? | throw ()
  return (first.toList.splitOn ':')[2]?.map String.ofList

/-- The client numbers the sessions that it opens. -/
structure Topic where
  index : Nat
  deriving DecidableEq, Repr

structure WalletConnectProvider where
  topic : Option Topic
  chainID : String
  connectedAccount : Option String
  deriving DecidableEq, Repr

structure ClientRequest where
  topic : Topic
  method : String
  chainId : String
  deriving DecidableEq, Repr

namespace WalletConnectProvider

def new : WalletConnectProvider := ⟨none, CHAIN_ID, none⟩

def onSessionUpdate (self : WalletConnectProvider) (namespaces : Namespaces) :
    WalletConnectProvider :=
  match getAccount namespaces with
  | .error _ => self
  | .ok account => { self with connectedAccount := account }

def onSessionDelete (self : WalletConnectProvider) : WalletConnectProvider :=
  { self with topic := none, connectedAccount := none }

/-- The chain is set before the wallet is asked. -/
def connect (self : WalletConnectProvider) (useOldWalletConnectConstants : Bool) :
    WalletConnectProvider :=
  { self with chainID := if useOldWalletConnectConstants then CHAIN_ID_OLD else CHAIN_ID }

/-- The account and the topic are set when the wallet has approved. -/
def approved (self : WalletConnectProvider) (topic : Topic) (namespaces : Namespaces) :
    WalletConnectProvider :=
  match getAccount namespaces with
  | .error _ => self
  | .ok account => { self with connectedAccount := account, topic := some topic }

/-- Both kinds of presentation are requested in the same way. -/
def request (method : String) (self : WalletConnectProvider) : Except String ClientRequest :=
  match self.topic with
  | none => .error "No connection"
  | some topic =>
      match self.connectedAccount with
      | none => .error "No connected account to send transaction."
      | some account =>
          if account = "" then .error "No connected account to send transaction."
          else .ok ⟨topic, method, self.chainID⟩

def requestVerifiablePresentation : WalletConnectProvider → Except String ClientRequest :=
  request "request_verifiable_presentation"

def requestVerifiablePresentationV1 : WalletConnectProvider → Except String ClientRequest :=
  request "request_verifiable_presentation_v1"

/-- The fields are cleared when the client has disconnected. -/
def disconnected (self : WalletConnectProvider) : WalletConnectProvider :=
  { self with connectedAccount := none, topic := none }

end WalletConnectProvider

/-- A session that was approved, with the chain it was connected for. -/
structure WalletSession where
  chain : String
  namespaces : Namespaces
  live : Bool
  deriving DecidableEq, Repr

/-- The provider, the sessions in the order of their approval, and the calls that wait for the
client. -/
structure Connection where
  provider : WalletConnectProvider
  sessions : List WalletSession
  connecting : List String
  disconnecting : List Topic
  deriving DecidableEq, Repr

/-- Sessions from before the page was loaded may still be open. -/
def Connection.loaded (opened : List WalletSession) : Connection :=
  ⟨WalletConnectProvider.new, opened, [], []⟩

/-- A connect call finds an existing pairing, fails, or is approved. -/
inductive Approval where
  | existingPairing
  | rejected
  | approved (namespaces : Namespaces)
  deriving DecidableEq, Repr

inductive ConnectionEvent where
  | connect (useOldWalletConnectConstants : Bool)
  | connected (index : Nat) (approval : Approval)
  | sessionUpdate (topic : Topic) (namespaces : Namespaces)
  | sessionDelete (topic : Topic)
  | disconnect
  | disconnected (index : Nat) (succeeded : Bool)
  | requestVerifiablePresentation
  | requestVerifiablePresentationV1
  deriving DecidableEq, Repr

namespace Connection

def closeSession (sessions : List WalletSession) (topic : Topic) : List WalletSession :=
  sessions.modify topic.index fun session => { session with live := false }

def step (connection : Connection) : ConnectionEvent → Connection
  | .connect useOldWalletConnectConstants =>
      let provider := connection.provider.connect useOldWalletConnectConstants
      { connection with
        provider := provider
        connecting := connection.connecting ++ [provider.chainID] }
  | .connected index approval =>
      match connection.connecting[index]? with
      | none => connection
      | some chain =>
          let connecting := connection.connecting.eraseIdx index
          match approval with
          | .approved namespaces =>
              { connection with
                provider := connection.provider.approved ⟨connection.sessions.length⟩ namespaces
                sessions := connection.sessions ++ [⟨chain, namespaces, true⟩]
                connecting := connecting }
          | _ => { connection with connecting := connecting }
  | .sessionUpdate topic namespaces =>
      { connection with
        provider := connection.provider.onSessionUpdate namespaces
        sessions := connection.sessions.modify topic.index fun session =>
          { session with namespaces := namespaces } }
  | .sessionDelete topic =>
      { connection with
        provider := connection.provider.onSessionDelete
        sessions := closeSession connection.sessions topic }
  | .disconnect =>
      match connection.provider.topic with
      | none => connection
      | some topic => { connection with disconnecting := connection.disconnecting ++ [topic] }
  | .disconnected index succeeded =>
      match connection.disconnecting[index]? with
      | none => connection
      | some topic =>
          let disconnecting := connection.disconnecting.eraseIdx index
          if succeeded then
            { connection with
              provider := connection.provider.disconnected
              sessions := closeSession connection.sessions topic
              disconnecting := disconnecting }
          else { connection with disconnecting := disconnecting }
  | .requestVerifiablePresentation => connection
  | .requestVerifiablePresentationV1 => connection

/-- What an event sends to the wallet. -/
def sends (connection : Connection) : ConnectionEvent → Option ClientRequest
  | .requestVerifiablePresentation =>
      connection.provider.requestVerifiablePresentation.toOption
  | .requestVerifiablePresentationV1 =>
      connection.provider.requestVerifiablePresentationV1.toOption
  | _ => none

end Connection

end Web3Id.ProofExplorer
