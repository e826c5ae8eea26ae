import PertiskProxy.Foundation.Best
import PertiskProxy.Foundation.Binary64
import PertiskProxy.Foundation.Bytes
import PertiskProxy.Foundation.FilterChain
import PertiskProxy.Foundation.Json
import PertiskProxy.Foundation.Pool
import PertiskProxy.Foundation.Reference
import PertiskProxy.Foundation.RoundRobin
