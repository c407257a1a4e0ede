import RpcTransport.Message.RpcError

/-!
Names of methods and subscription events, and the names that belong to a subscription: the method
that ends it and the method of its notifications.
-/

namespace RpcTransport.Method

def paritySubscribe : String := "parity_subscribe"
def parityPendingTransactions : String := "parity_pendingTransactions"
def txpoolContent : String := "txpool_content"
def peerCount : String := "net_peerCount"
def clientVersion : String := "web3_clientVersion"
def blockNumber : String := "eth_blockNumber"
def call : String := "eth_call"
def getBalance : String := "eth_getBalance"
def getBlockByNumber : String := "eth_getBlockByNumber"
def getBlockTransactionCountByNumber : String := "eth_getBlockTransactionCountByNumber"
def getCode : String := "eth_getCode"
def getFilterChanges : String := "eth_getFilterChanges"
def getTransactionByHash : String := "eth_getTransactionByHash"
def getTransactionReceipt : String := "eth_getTransactionReceipt"
def getUncleByBlockHashAndIndex : String := "eth_getUncleByBlockHashAndIndex"
def getUncleByBlockNumberAndIndex : String := "eth_getUncleByBlockNumberAndIndex"
def newPendingTransactionFilter : String := "eth_newPendingTransactionFilter"
def subscribe : String := "eth_subscribe"
def unsubscribe : String := "eth_unsubscribe"
def traceBlock : String := "trace_block"
def traceReplayBlockTransactions : String := "trace_replayBlockTransactions"

/-- The event of new block headers. -/
def newHeads : String := "newHeads"

/-- The event of new pending transactions. -/
def newPendingTransactions : String := "newPendingTransactions"

/-- How the method of a subscription's notifications ends. -/
def subscriptionSuffix : String := "_subscription"

/-- The methods, then the events and the suffix. -/
def catalogue : List String :=
  [paritySubscribe, parityPendingTransactions, txpoolContent, peerCount, clientVersion, blockNumber,
    call, getBalance, getBlockByNumber, getBlockTransactionCountByNumber, getCode, getFilterChanges,
    getTransactionByHash, getTransactionReceipt, getUncleByBlockHashAndIndex,
    getUncleByBlockNumberAndIndex, newPendingTransactionFilter, subscribe, unsubscribe, traceBlock,
    traceReplayBlockTransactions, newHeads, newPendingTransactions, subscriptionSuffix]

/-- What comes before `ending` in a text that ends with it. -/
def dropEnding? (ending text : List Char) : Option (List Char) :=
  if ending.isSuffixOf text then some (text.take (text.length - ending.length)) else none

/-- Whether notifications of a subscription come under this method. -/
def isSubscription (method : String) : Bool :=
  subscriptionSuffix.toList.isSuffixOf method.toList

/-- The method that ends the subscriptions of a method named `<ns>_subscribe` with some namespace.
-/
def unsubscribeOf? (method : String) : Option String :=
  match dropEnding? "_subscribe".toList method.toList with
  | none | some [] => none
  | some ns => some (String.ofList ns ++ "_unsubscribe")

end RpcTransport.Method
