import SignOn.Directory.Ldap
import SignOn.Directory.Shown
import SignOn.Settings.Load
import SignOn.Store.Outage
import SignOn.Web.Service
import SignOn.Proofs.Store.WellFormed
import SignOn.Proofs.Call
import SignOn.Proofs.Gateway.FederatedLogin
import SignOn.Proofs.GroupName
import SignOn.Proofs.GroupAuthority
import SignOn.Proofs.Gateway.KerberosLogin
import SignOn.Proofs.Gateway.Run
import SignOn.Proofs.Gateway.SessionSoundness
import SignOn.Proofs.Provider.Acceptance
import SignOn.Proofs.Provider.SignedFields
import SignOn.Proofs.Provider.Tampering
import SignOn.Proofs.Provider.WrittenAssertion
import SignOn.Proofs.Web.Destination
import SignOn.Proofs.Web.Redirect
import SignOn.Proofs.Gateway.FederatedAtomicity
import SignOn.Proofs.Gateway.KerberosSession
import SignOn.Proofs.Store.Refinement
import SignOn.Proofs.Gateway.KerberosRetry
import SignOn.Proofs.Gateway.Action
import SignOn.Proofs.Gateway.History
import SignOn.Proofs.Gateway.LatestLogin
import SignOn.Proofs.Gateway.GroupSource
import SignOn.Proofs.Gateway.AllowList
import SignOn.Proofs.Gateway.Requests
import SignOn.Proofs.Gateway.SharedNames
import SignOn.Proofs.Gateway.Footprint
import SignOn.Proofs.Gateway.InternalFaults
import SignOn.Proofs.Gateway.Searches
import SignOn.Proofs.Form
import SignOn.Proofs.Web.Outcome
import SignOn.Proofs.Url.Host
import SignOn.Proofs.Username
import SignOn.Proofs.Url.Delimited
import SignOn.Proofs.Gateway.ReturnTrip
import SignOn.Proofs.Identity
import SignOn.Proofs.Directory.FilterReading
import SignOn.Proofs.Directory.Retry
import SignOn.Proofs.Directory.GroupNames
import SignOn.Proofs.EnumerationOrder
import SignOn.Proofs.Gateway.StoredGroups
import SignOn.Proofs.Gateway.Availability
import SignOn.Proofs.Gateway.Configuration
import SignOn.Proofs.Contract
