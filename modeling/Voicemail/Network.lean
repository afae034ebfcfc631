import Voicemail.Client

/-!
# Networks

A network is requested from the platform, which replies in its own time. The first reply decides,
whatever follows it, and no reply within the time limit is a refusal too. A request that the
platform took is released after the work on the network, and also where there was none.
-/

namespace Voicemail.Client

/-- A reply after the first one changes nothing. -/
def ignoreReply (account : String) : NetworkReply → ClientM Unit
  | .available _ => say .network .debug s!"Late network callback for {account} ignored"
  | .unavailable => say .network .debug s!"Late unavailable callback for {account} ignored"

/-- Passes over replies. -/
def ignoreReplies (account : String) : List NetworkReply → ClientM Unit
  | [] => return ()
  | r :: rest => do
    ignoreReply account r
    ignoreReplies account rest

/-- Files a request. A platform that cannot take one has no network. -/
def requestNetwork (p : Platform) (account : String) : ClientM NetworkGrant := do
  match ← attempt (perform p (.requestNetwork account)) with
  | .ok grant =>
    ignoreReplies account grant.replies.tail
    return grant
  | .error e => throw (if e.isIo then .networkRefused account e.message else e)

/-- The network that the first of the replies offers. -/
def firstNetwork (account : String) (limit : TimeLimit) : List NetworkReply → Except Failure String
  | .available network :: _ => .ok network
  | .unavailable :: _ => .error (.noNetwork account)
  | [] =>
    .error (if limit.isBeyondClock then .beyondClock limit else .networkTimedOut account limit)

/-- Releases a request. -/
def releaseNetwork (p : Platform) (account token : String) : ClientM Unit := do
  perform p (.releaseNetwork token)
  say .network .debug s!"Network released for {account}"

/-- Works on a network. -/
def withNetwork {α : Type} (p : Platform) (account : String) (limit : TimeLimit)
    (body : String → ClientM α) : ClientM α := do
  let grant ← requestNetwork p account
  ensuring
    (do
      let network ← firstNetwork account limit grant.replies
      say .network .debug s!"Network available for {account}"
      body network)
    (releaseNetwork p account grant.token)

end Voicemail.Client
