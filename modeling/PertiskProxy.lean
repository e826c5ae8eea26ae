import PertiskProxy.Api.Interleaving
import PertiskProxy.Api.Orders
import PertiskProxy.Api.Quantities
import PertiskProxy.Api.Restoring
import PertiskProxy.Api.Sessions
import PertiskProxy.Api.Wildcards
import PertiskProxy.ConfigFormat
import PertiskProxy.Edge.Tokens
import PertiskProxy.Ingress.Attachment
import PertiskProxy.Ingress.Failures
import PertiskProxy.Ingress.FormRoundTrip
import PertiskProxy.Ingress.LeaderElection
import PertiskProxy.Proxy.Admission
import PertiskProxy.Proxy.CacheFidelity
import PertiskProxy.Proxy.CaptchaForms
import PertiskProxy.Proxy.ConsulRotation
import PertiskProxy.Proxy.Enforcement
import PertiskProxy.Proxy.FileRoutes
import PertiskProxy.Proxy.ForwardAuth
import PertiskProxy.Proxy.HopByHop
import PertiskProxy.Proxy.Migration
import PertiskProxy.Proxy.RateBudget
import PertiskProxy.Proxy.SiteHeaders
import PertiskProxy.Security.CaptchaProtocol
import PertiskProxy.Terraform.Sites
import PertiskProxy.Tls.Dns01
import PertiskProxy.Tunnel.Relay
