/-!
# Routes

The components of the paths the service answers on, and the paths themselves.
-/

set_option autoImplicit false

namespace SignOn.Route

def api : String := "api_3"
def kerberosApi : String := "gssapi_login"
def webUi : String := "web-ui"
def authCheck : String := "auth-check"
def login : String := "login"
def kerberosLogin : String := "krb5_login"
def openId : String := "openid"
def callback : String := "callback"
def logout : String := "logout"

/-- The path of components, with a slash before, between and after them. -/
def path (components : List String) : String :=
  "/" ++ String.join (components.map (· ++ "/"))

/-- Path of the API, without a slash at its end. -/
def apiPrefix : String := "/" ++ api

/-- Path of the Kerberos login that answers with the user. -/
def kerberosApiPath : String := path [api, kerberosApi]

/-- Path of the Kerberos login of a browser. -/
def kerberosWebPath : String := path [api, kerberosApi, webUi]

/-- Path that starts a federated login. -/
def loginPath : String := path [login]

/-- Path that starts a Kerberos login. -/
def kerberosLoginPath : String := path [kerberosLogin]

/-- Path to which the provider sends the browser back. -/
def callbackPath : String := path [openId, callback]

/-- Path that ends a login. -/
def logoutPath : String := path [logout]

/-- Query parameter that names the destination after a login. -/
def nextParameter : String := "next"

end SignOn.Route
