import MySQLOperator.Kube.Object
import MySQLOperator.Certificates.Names
import MySQLOperator.Certificates.Manager
import MySQLOperator.Certificates.Steps
import MySQLOperator.Certificates.Idempotence
import MySQLOperator.Certificates.ServerCert
import MySQLOperator.Certificates.Secrets
import MySQLOperator.Certificates.Race
import MySQLOperator.Certificates.Instances
import MySQLOperator.Certificates.Reports
import MySQLOperator.Labeler.Pod
import MySQLOperator.Labeler.PodLabeler
import MySQLOperator.Labeler.Runs
import MySQLOperator.Labeler.Queue
import MySQLOperator.Labeler.Controller
import MySQLOperator.Labeler.Progress
import MySQLOperator.Labeler.Cluster
