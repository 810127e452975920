/-
  The property keys that the deployer understands. A property whose key does not begin with
  `start` belongs to the application.
-/

namespace Slipway.Keys

def start : String := "ph.deployer."

def gitUri : String := "ph.deployer.openshift.build.git.uri"
def gitRef : String := "ph.deployer.openshift.build.git.ref"
def gitDockerfilePath : String := "ph.deployer.openshift.build.git.dockerfile"
def gitSecret : String := "ph.deployer.openshift.build.git.secret"
def dockerfile : String := "ph.deployer.openshift.deployment.dockerfile"
def forceBuild : String := "ph.deployer.openshift.forceBuild"
def imageTag : String := "ph.deployer.openshift.image.tag"
def serviceAccount : String := "ph.deployer.openshift.deployment.service.account"
def nodeSelector : String := "ph.deployer.openshift.deployment.nodeSelector"
def environmentVariables : String := "ph.deployer.openshift.deployment.environmentVariables"
def routeHost : String := "ph.deployer.openshift.deployment.route.host"
def createNodePort : String := "ph.deployer.openshift.createNodePort"
def indexed : String := "ph.deployer.indexed"
def count : String := "ph.deployer.count"
def group : String := "ph.deployer.group"

end Slipway.Keys
